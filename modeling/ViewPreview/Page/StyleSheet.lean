import ViewPreview.Render.Options
import ViewPreview.Style.Declarations

/-!
# The Style Sheet of a Page

The rules for the classes that markup uses, and the named colors they refer to, of which there is
one set for each theme.  A rule is written on a line of its own.
-/

namespace ViewPreview.Page

open ViewPreview.Style (Declaration)

/-- The declarations that hold for the elements a selector picks. -/
structure Rule where
  selector : String
  declarations : List Declaration
deriving Repr, DecidableEq

/-- A rule as it is written. -/
def Rule.write (rule : Rule) : String :=
  rule.selector ++ " \x7b " ++
    String.join (rule.declarations.map fun declaration ↦ declaration.write ++ "; ") ++ "\x7d"

/-- Rules as they are written, each on its own line. -/
def writeRules (rules : List Rule) : String :=
  String.join (rules.map fun rule ↦ rule.write ++ "\n")

/-! ## Colors -/

/-- The colors of a light page. -/
def lightColors : List Declaration :=
  [⟨"--page", "#f2f2f7"⟩, ⟨"--surface", "#ffffff"⟩, ⟨"--grouped", "#f2f2f7"⟩,
    ⟨"--ink", "#000000"⟩, ⟨"--muted", "#8e8e93"⟩, ⟨"--accent", "#007aff"⟩, ⟨"--fill", "#e5e5ea"⟩,
    ⟨"--separator", "#c6c6c8"⟩, ⟨"--error-bg", "#fff2f0"⟩, ⟨"--error-ink", "#c0271c"⟩]

/-- The colors of a dark page. -/
def darkColors : List Declaration :=
  [⟨"--page", "#000000"⟩, ⟨"--surface", "#1c1c1e"⟩, ⟨"--grouped", "#000000"⟩,
    ⟨"--ink", "#ffffff"⟩, ⟨"--muted", "#8e8e93"⟩, ⟨"--accent", "#0a84ff"⟩, ⟨"--fill", "#2c2c2e"⟩,
    ⟨"--separator", "#38383a"⟩, ⟨"--error-bg", "#3a1512"⟩, ⟨"--error-ink", "#ff6961"⟩]

/-- The rule that names the colors of a theme. -/
def colorRule (theme : Theme) : Rule :=
  ⟨":root", match theme with
    | .light => lightColors
    | .dark => darkColors⟩

/-! ## Rules -/

/-- The page, the device around the view, the banner of caveats and placeholders. -/
def deviceRules : List Rule :=
  [⟨"*",
      [⟨"box-sizing", "border-box"⟩]⟩,
    ⟨"body",
      [⟨"margin", "0"⟩, ⟨"padding", "24px"⟩,
       ⟨"font-family", "-apple-system, BlinkMacSystemFont, 'Helvetica Neue', sans-serif"⟩,
       ⟨"background", "var(--page)"⟩, ⟨"color", "var(--ink)"⟩]⟩,
    ⟨".sv-device",
      [⟨"max-width", "430px"⟩, ⟨"min-height", "640px"⟩, ⟨"margin", "0 auto"⟩,
       ⟨"padding", "16px"⟩, ⟨"display", "flex"⟩, ⟨"flex-direction", "column"⟩, ⟨"gap", "8px"⟩,
       ⟨"border-radius", "32px"⟩, ⟨"background", "var(--surface)"⟩,
       ⟨"box-shadow", "0 8px 32px rgba(0, 0, 0, 0.15)"⟩, ⟨"overflow", "hidden"⟩]⟩,
    ⟨".sv-error-banner",
      [⟨"padding", "12px 16px"⟩, ⟨"border-radius", "10px"⟩, ⟨"background", "var(--error-bg)"⟩,
       ⟨"color", "var(--error-ink)"⟩, ⟨"font-size", "13px"⟩]⟩,
    ⟨".sv-error-banner ul",
      [⟨"margin", "6px 0 0"⟩, ⟨"padding-left", "18px"⟩]⟩,
    ⟨".sv-placeholder",
      [⟨"padding", "12px"⟩, ⟨"border", "1px dashed var(--muted)"⟩, ⟨"border-radius", "8px"⟩,
       ⟨"color", "var(--muted)"⟩, ⟨"font-family", "ui-monospace, Menlo, monospace"⟩,
       ⟨"font-size", "13px"⟩, ⟨"text-align", "center"⟩]⟩]

/-- Buttons, fields, switches and dividers. -/
def controlRules : List Rule :=
  [⟨".sv-button",
      [⟨"border", "none"⟩, ⟨"background", "none"⟩, ⟨"color", "var(--accent)"⟩,
       ⟨"font", "inherit"⟩, ⟨"padding", "0"⟩, ⟨"cursor", "pointer"⟩]⟩,
    ⟨".sv-button-bordered",
      [⟨"background", "var(--fill)"⟩, ⟨"padding", "6px 12px"⟩, ⟨"border-radius", "8px"⟩]⟩,
    ⟨".sv-button-borderedprominent",
      [⟨"background", "var(--accent)"⟩, ⟨"color", "#ffffff"⟩, ⟨"padding", "6px 12px"⟩,
       ⟨"border-radius", "8px"⟩]⟩,
    ⟨".sv-button-plain",
      [⟨"color", "inherit"⟩]⟩,
    ⟨".sv-textfield, .sv-securefield",
      [⟨"border", "none"⟩, ⟨"background", "transparent"⟩, ⟨"font", "inherit"⟩,
       ⟨"padding", "6px 0"⟩, ⟨"color", "inherit"⟩]⟩,
    ⟨".sv-field-roundedborder",
      [⟨"border", "1px solid var(--separator)"⟩, ⟨"border-radius", "6px"⟩, ⟨"padding", "6px 8px"⟩]⟩,
    ⟨".sv-texteditor",
      [⟨"min-height", "80px"⟩, ⟨"font", "inherit"⟩, ⟨"border", "1px solid var(--separator)"⟩,
       ⟨"border-radius", "6px"⟩]⟩,
    ⟨".sv-toggle, .sv-stepper, .sv-datepicker, .sv-colorpicker, .sv-picker",
      [⟨"display", "flex"⟩, ⟨"align-items", "center"⟩, ⟨"justify-content", "space-between"⟩,
       ⟨"gap", "12px"⟩]⟩,
    ⟨".sv-stepper-buttons button",
      [⟨"border", "none"⟩, ⟨"background", "var(--fill)"⟩, ⟨"padding", "4px 12px"⟩,
       ⟨"font", "inherit"⟩]⟩,
    ⟨".sv-divider",
      [⟨"border", "none"⟩, ⟨"border-top", "1px solid var(--separator)"⟩, ⟨"width", "100%"⟩,
       ⟨"margin", "0"⟩]⟩]

/-- Lists, sections and their rows. -/
def listRules : List Rule :=
  [⟨".sv-list, .sv-form",
      [⟨"display", "flex"⟩, ⟨"flex-direction", "column"⟩, ⟨"background", "var(--grouped)"⟩,
       ⟨"border-radius", "10px"⟩, ⟨"overflow", "hidden"⟩]⟩,
    ⟨".sv-list-plain",
      [⟨"background", "transparent"⟩, ⟨"border-radius", "0"⟩]⟩,
    ⟨".sv-row",
      [⟨"padding", "11px 16px"⟩, ⟨"background", "var(--surface)"⟩,
       ⟨"border-bottom", "1px solid var(--separator)"⟩]⟩,
    ⟨".sv-section",
      [⟨"display", "flex"⟩, ⟨"flex-direction", "column"⟩, ⟨"margin", "8px 0"⟩]⟩,
    ⟨".sv-section-header, .sv-section-footer",
      [⟨"padding", "6px 16px"⟩, ⟨"font-size", "13px"⟩, ⟨"color", "var(--muted)"⟩,
       ⟨"text-transform", "uppercase"⟩]⟩,
    ⟨".sv-section-footer",
      [⟨"text-transform", "none"⟩]⟩]

/-- Navigation bars, navigation links and the bar of tabs. -/
def navigationRules : List Rule :=
  [⟨".sv-navigationview, .sv-navigationstack",
      [⟨"display", "flex"⟩, ⟨"flex-direction", "column"⟩, ⟨"gap", "8px"⟩]⟩,
    ⟨".sv-navbar",
      [⟨"padding", "8px 0"⟩]⟩,
    ⟨".sv-navtitle",
      [⟨"margin", "0"⟩, ⟨"font-size", "34px"⟩, ⟨"font-weight", "700"⟩]⟩,
    ⟨".sv-navbar-inline .sv-navtitle",
      [⟨"font-size", "17px"⟩, ⟨"font-weight", "600"⟩, ⟨"text-align", "center"⟩]⟩,
    ⟨".sv-navigationlink",
      [⟨"display", "flex"⟩, ⟨"justify-content", "space-between"⟩, ⟨"color", "inherit"⟩,
       ⟨"text-decoration", "none"⟩]⟩,
    ⟨".sv-chevron",
      [⟨"color", "var(--muted)"⟩]⟩,
    ⟨".sv-tabview",
      [⟨"display", "flex"⟩, ⟨"flex-direction", "column"⟩, ⟨"min-height", "100%"⟩]⟩,
    ⟨".sv-tab-content",
      [⟨"flex", "1 1 auto"⟩]⟩,
    ⟨".sv-tabbar",
      [⟨"display", "flex"⟩, ⟨"justify-content", "space-around"⟩,
       ⟨"border-top", "1px solid var(--separator)"⟩, ⟨"padding-top", "6px"⟩]⟩,
    ⟨".sv-tab",
      [⟨"border", "none"⟩, ⟨"background", "none"⟩, ⟨"font-size", "10px"⟩,
       ⟨"color", "var(--muted)"⟩, ⟨"position", "relative"⟩]⟩,
    ⟨".sv-tab-active",
      [⟨"color", "var(--accent)"⟩]⟩]

/-- Badges, search fields, segmented choices and folded content. -/
def accessoryRules : List Rule :=
  [⟨".sv-badged",
      [⟨"position", "relative"⟩, ⟨"display", "inline-flex"⟩]⟩,
    ⟨".sv-badge",
      [⟨"position", "absolute"⟩, ⟨"top", "-6px"⟩, ⟨"right", "-10px"⟩, ⟨"min-width", "18px"⟩,
       ⟨"padding", "1px 5px"⟩, ⟨"border-radius", "9px"⟩, ⟨"background", "#ff3b30"⟩,
       ⟨"color", "#ffffff"⟩, ⟨"font-size", "11px"⟩, ⟨"text-align", "center"⟩]⟩,
    ⟨".sv-searchable",
      [⟨"display", "flex"⟩, ⟨"flex-direction", "column"⟩, ⟨"gap", "8px"⟩]⟩,
    ⟨".sv-search",
      [⟨"padding", "7px 10px"⟩, ⟨"border", "none"⟩, ⟨"border-radius", "10px"⟩,
       ⟨"background", "var(--fill)"⟩, ⟨"font", "inherit"⟩]⟩,
    ⟨".sv-segmented",
      [⟨"display", "flex"⟩, ⟨"background", "var(--fill)"⟩, ⟨"border-radius", "8px"⟩,
       ⟨"padding", "2px"⟩]⟩,
    ⟨".sv-segment",
      [⟨"flex", "1"⟩, ⟨"border", "none"⟩, ⟨"background", "none"⟩, ⟨"padding", "4px 8px"⟩,
       ⟨"border-radius", "6px"⟩, ⟨"font", "inherit"⟩]⟩,
    ⟨".sv-segment-active",
      [⟨"background", "var(--surface)"⟩]⟩,
    ⟨".sv-disclosuregroup summary, .sv-menu summary",
      [⟨"cursor", "pointer"⟩, ⟨"color", "var(--accent)"⟩]⟩]

/-- Labels, symbols, images, progress and links. -/
def contentRules : List Rule :=
  [⟨".sv-label",
      [⟨"display", "inline-flex"⟩, ⟨"align-items", "center"⟩, ⟨"gap", "6px"⟩]⟩,
    ⟨".sv-symbol",
      [⟨"display", "inline-block"⟩, ⟨"text-align", "center"⟩]⟩,
    ⟨".sv-image-asset",
      [⟨"display", "flex"⟩, ⟨"align-items", "center"⟩, ⟨"justify-content", "center"⟩,
       ⟨"min-width", "60px"⟩, ⟨"min-height", "60px"⟩, ⟨"background", "var(--fill)"⟩,
       ⟨"color", "var(--muted)"⟩, ⟨"font-size", "12px"⟩]⟩,
    ⟨".sv-progress-spinner",
      [⟨"display", "flex"⟩, ⟨"flex-direction", "column"⟩, ⟨"align-items", "center"⟩,
       ⟨"gap", "6px"⟩]⟩,
    ⟨".sv-spinner",
      [⟨"width", "20px"⟩, ⟨"height", "20px"⟩, ⟨"border", "2px solid var(--separator)"⟩,
       ⟨"border-top-color", "var(--muted)"⟩, ⟨"border-radius", "50%"⟩]⟩,
    ⟨".sv-link",
      [⟨"color", "var(--accent)"⟩, ⟨"text-decoration", "none"⟩]⟩]

/-- The style sheet of a page. -/
def styleSheet (theme : Theme) : List Rule :=
  colorRule theme ::
    (deviceRules ++ controlRules ++ listRules ++ navigationRules ++ accessoryRules ++ contentRules)

end ViewPreview.Page
