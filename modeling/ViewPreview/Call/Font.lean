import ViewPreview.Call.Argument

/-!
# Fonts in Argument Text

Reading a text as a font: a named text style, `.system(...)` or `.custom(...)`.  A weight added
behind any of them takes precedence.
-/

namespace ViewPreview.Call

open ViewPreview.Text

/-- The weight in the text after `.weight(`: a dot and letters, with nothing else before the closing
parenthesis. -/
def weightArgument? (text : List Char) : Option String :=
  match trimStart text with
  | '.' :: afterDot =>
    let letters := afterDot.takeWhile isAsciiLetter
    match letters, trimStart (afterDot.dropWhile isAsciiLetter) with
    | _ :: _, ')' :: _ => some (String.ofList letters)
    | _, _ => none
  | _ => none

/-- The weight that a text begins with: `.weight(...)` or `.bold()`. -/
def leadingWeight? (text : List Char) : Option String :=
  ((dropStart? ".weight(".toList text).bind weightArgument?).or
    (if startsWith ".bold()" text then some "bold" else none)

/-- The first weight added in a text. -/
def addedWeight? : List Char → Option String
  | [] => none
  | c :: text => (leadingWeight? (c :: text)).or (addedWeight? text)

/-- The font of a text that is not a weight alone, `Font` in front of it removed. -/
def baseFont (bare : List Char) : Font :=
  let arguments := Arguments.ofText ((callInner? bare).getD [])
  if startsWith ".system(" bare then
    { size := arguments.labeledNumber? "size"
      weight := arguments.labeledToken? "weight"
      design := arguments.labeledToken? "design"
      style := arguments.firstUnlabeled?.bind fun argument ↦ token? argument.text }
  else if startsWith ".custom(" bare then
    { family := arguments.firstString?
      size := (arguments.labeledNumber? "size").or (arguments.labeledNumber? "fixedSize") }
  else { style := token? bare }

/-- The font that a text denotes; it says nothing when the text is not a font. -/
def font (text : List Char) : Font :=
  let trimmed := trim text
  let bare := (dropStart? "Font".toList trimmed).getD trimmed
  let base := baseFont bare
  { base with weight := (addedWeight? bare).or base.weight }

end ViewPreview.Call
