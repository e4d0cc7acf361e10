import ViewPreview.Text.Blank

/-!
# Lines

A text as a sequence of lines, the number of the line that holds a given byte, and the short
quotation of a text's first line that messages use.  A line ends at a line feed; a carriage return
directly before it belongs to the terminator.
-/

namespace ViewPreview.Text

/-- A line of text with what ends it: a line feed, a carriage return and a line feed, or nothing. -/
structure Line where
  body : List Char
  terminator : List Char
deriving Repr, DecidableEq

/-- The lines of a text. -/
def lines : List Char → List Line
  | [] => []
  | '\n' :: text => ⟨[], ['\n']⟩ :: lines text
  | '\r' :: '\n' :: text => ⟨[], ['\r', '\n']⟩ :: lines text
  | c :: text =>
    match lines text with
    | [] => [⟨[c], []⟩]
    | line :: rest => { line with body := c :: line.body } :: rest

/-- The number of line feeds in a text. -/
def lineFeeds (text : List Char) : Nat :=
  text.count '\n'

/-- The number, counted from one, of the line that holds the byte at `offset`.  An offset past the
end belongs to the last line. -/
def lineOf : (text : List Char) → (offset : Nat) → Nat
  | [], _ => 1
  | _, 0 => 1
  | c :: text, offset + 1 =>
    (if c = '\n' then 1 else 0) + lineOf text (offset + 1 - c.utf8Size)

/-- The first line of a text that has no blanks at its ends. -/
def firstLine (text : List Char) : List Char :=
  match lines (trim text) with
  | [] => []
  | line :: _ => line.body

/-- The first line of a text, cut to sixty characters. -/
def snippet (text : List Char) : String :=
  let line := firstLine text
  if line.length > 60 then String.ofList (line.take 60) ++ "..." else String.ofList line

end ViewPreview.Text
