import ViewPreview.Page.StyleSheet
import ViewPreview.Render.Markup

/-!
# The Page of a Preview

A document that shows a rendered view inside a device, below a banner that lists the caveats of its
preview.  Either of the two may be missing.
-/

namespace ViewPreview.Page

open ViewPreview.Html

/-- How many problems a banner announces. -/
def problemCount (messages : List String) : String :=
  if messages.length = 1 then "1 problem" else Style.natText messages.length ++ " problems"

/-- The banner that lists some messages; without messages there is none. -/
def bannerNodes (messages : List String) : List Node :=
  if messages.isEmpty then []
  else
    [.element "div" [.verbatim "class" "sv-error-banner", .verbatim "role" "alert"]
      [.classed "strong" "sv-error-heading" [.text ("Preview: " ++ problemCount messages)],
        .element "ul" [] (messages.map fun message ↦ .element "li" [] [.text message])]]

/-- The HTML of a banner. -/
def banner (messages : List String) : String :=
  writeNodes (bannerNodes messages)

/-- What a page shows inside its device. -/
def contents (options : RenderOptions) (root : Option View) (messages : List String) : List Node :=
  bannerNodes messages ++ (root.map (Render.viewNode options)).toList

/-- The HTML of a page. -/
def document (options : RenderOptions) (root : Option View) (messages : List String) : String :=
  "<!DOCTYPE html>\n<html lang=\"en\" data-theme=\"" ++ options.theme.name ++ "\">\n" ++
  "<head>\n<meta charset=\"utf-8\">\n" ++
  "<meta name=\"viewport\" content=\"width=device-width, initial-scale=1\">\n" ++
  "<title>CrossPreview</title>\n" ++
  "<style>" ++ writeRules (styleSheet options.theme) ++ "</style>\n</head>\n" ++
  "<body>\n" ++ (Node.classed "main" "sv-device" (contents options root messages)).write ++
  "\n</body>\n</html>\n"

end ViewPreview.Page
