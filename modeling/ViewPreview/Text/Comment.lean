import ViewPreview.Text.Line

/-!
# Line Comments

Removing the comments that run from `//` to the end of their line.  Every line is looked at by
itself: a comment starts at the first `//` with an even number of quotes before it on the line.
Line terminators stay, so that line numbers do not change.
-/

namespace ViewPreview.Text

/-- What stands before the comment of a line.  The flag tells whether an odd number of quotes has
been passed. -/
def beforeComment : (quoted : Bool) → List Char → List Char
  | _, [] => []
  | false, '/' :: '/' :: _ => []
  | quoted, c :: text => c :: beforeComment (if c = '"' then !quoted else quoted) text

/-- A text without its line comments. -/
def stripComments (text : List Char) : List Char :=
  (lines text).flatMap fun line ↦ beforeComment false line.body ++ line.terminator

end ViewPreview.Text
