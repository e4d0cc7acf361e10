import ViewPreview.Settings.Literal
import ViewPreview.Settings.Quoted
import ViewPreview.Settings.Table

/-!
# Documents in the TOML Notation

Reading the text of a settings file.  Each line gives a value to a key or is the header of a table;
arrays and tables may also be written as values, which may go over several lines and nest at most
eighty deep.

Every step takes something off the text, so the length of a text bounds the number of steps.
-/

namespace ViewPreview.Settings

open ViewPreview.Text

/-! ## Gaps -/

/-- The text after its blanks. -/
def skipBlanks (text : List Char) : List Char :=
  text.dropWhile fun c ↦ c == ' ' || c == '\t'

/-- The text after blanks, line breaks and comments, which hold no control characters.  The flag
tells whether the text begins inside a comment. -/
def skipGap? : (inComment : Bool) → List Char → Option (List Char)
  | _, [] => some []
  | _, '\n' :: text => skipGap? false text
  | _, '\r' :: '\n' :: text => skipGap? false text
  | true, c :: text => if isControl c then none else skipGap? true text
  | false, c :: text =>
    if c = ' ' || c = '\t' then skipGap? false text
    else if c = '#' then skipGap? true text
    else some (c :: text)

/-- The text from the end of its line on, if nothing but a comment comes before that. -/
def skipLine? (text : List Char) : Option (List Char) :=
  match skipBlanks text with
  | [] => some []
  | '\n' :: rest => some rest
  | '\r' :: '\n' :: rest => some rest
  | '#' :: comment =>
    let rest := comment.dropWhile fun c ↦ !isControl c
    match rest with
    | [] => some []
    | '\n' :: rest => some rest
    | '\r' :: '\n' :: rest => some rest
    | _ => none
  | _ => none

/-! ## Keys -/

/-- A character of a key without quotes. -/
def isKeyPart (c : Char) : Bool :=
  isAsciiLetter c || isAsciiDigit c || c == '_' || c == '-'

/-- A key without dots. -/
def readKey? (text : List Char) : Option (String × List Char) :=
  let bare := text.takeWhile isKeyPart
  if bare.isEmpty then (quotedName? text).map fun parts ↦ (String.ofList parts.1, parts.2)
  else some (String.ofList bare, text.dropWhile isKeyPart)

/-- The keys between dots, with the blanks behind them, in at most `limit` steps. -/
def readKeys? : (limit : Nat) → List Char → Option (List String × List Char)
  | 0, _ => none
  | limit + 1, text => do
    let (key, rest) ← readKey? (skipBlanks text)
    match skipBlanks rest with
    | '.' :: rest =>
      let (keys, rest) ← readKeys? limit rest
      some (key :: keys, rest)
    | rest => some ([key], rest)

/-- A key, which may be dotted. -/
def readKeyPath? (text : List Char) : Option (List String × List Char) :=
  readKeys? text.length text

/-- A key with the sign behind it that separates it from its value. -/
def readAssignment? (text : List Char) : Option (List String × List Char) := do
  let (keys, rest) ← readKeyPath? text
  match rest with
  | '=' :: rest => some (keys, skipBlanks rest)
  | _ => none

/-! ## Values -/

mutual

/-- A value in at most `limit` steps, with at most `depth` values nested in each other. -/
def readValue? : (limit depth : Nat) → List Char → Option (Value × List Char)
  | 0, _, _ => none
  | limit + 1, depth, text =>
    match text, depth with
    | '[' :: _, 0 => none
    | '{' :: _, 0 => none
    | '[' :: rest, depth + 1 =>
      (readItems? limit depth rest).map fun parts ↦ (.array parts.1, parts.2)
    | '{' :: rest, depth + 1 =>
      (readEntries? limit depth [] rest).map fun parts ↦ (.table (finishedEntries parts.1), parts.2)
    | '"' :: _, _ => (quoted? text).map fun parts ↦ (.string (String.ofList parts.1), parts.2)
    | '\'' :: _, _ => (quoted? text).map fun parts ↦ (.string (String.ofList parts.1), parts.2)
    | _, _ => readLiteral? text

/-- The items of an array up to its closing bracket. -/
def readItems? : (limit depth : Nat) → List Char → Option (List Value × List Char)
  | 0, _, _ => none
  | limit + 1, depth, text => do
    match ← skipGap? false text with
    | ']' :: rest => some ([], rest)
    | text =>
      let (value, rest) ← readValue? limit depth text
      match ← skipGap? false rest with
      | ',' :: rest =>
        let (values, rest) ← readItems? limit depth rest
        some (value :: values, rest)
      | ']' :: rest => some ([value], rest)
      | _ => none

/-- The entries of a table that is written as a value, up to its closing brace, added to those
before them. -/
def readEntries? : (limit depth : Nat) → Entries → List Char → Option (Entries × List Char)
  | 0, _, _, _ => none
  | limit + 1, depth, entries, text => do
    match ← skipGap? false text with
    | '}' :: rest => some (entries, rest)
    | text =>
      let (keys, rest) ← readAssignment? text
      let (value, rest) ← readValue? limit depth rest
      let entries ← entries.assign keys value
      match ← skipGap? false rest with
      | ',' :: rest => readEntries? limit depth entries rest
      | '}' :: rest => some (entries, rest)
      | _ => none

end

/-- The greatest number of values nested in each other. -/
def greatestDepth : Nat := 80

/-! ## Lines -/

/-- A document being read: all of its tables, and the keys of the one that its lines now add to. -/
structure Draft where
  root : Entries := []
  header : List String := []
deriving Repr

namespace Draft

/-- The draft after the header of a table. -/
def openTable (draft : Draft) (keys : List String) : Option Draft := do
  let key ← keys.getLast?
  let root ← draft.root.changeAt (Entries.openTable key) keys.dropLast
  some { root, header := keys }

/-- The draft after the header of one more table of a list. -/
def openNext (draft : Draft) (keys : List String) : Option Draft := do
  let key ← keys.getLast?
  let root ← draft.root.changeAt (Entries.openNext key) keys.dropLast
  some { root, header := keys }

/-- The draft after giving a value to a key. -/
def assign (draft : Draft) (keys : List String) (value : Value) : Option Draft := do
  let root ← draft.root.changeAt (Entries.assign keys value) draft.header
  some { draft with root }

/-- The draft after the line at the start of a text, and the text after that line. -/
def readLine? (draft : Draft) (text : List Char) : Option (Draft × List Char) :=
  match text with
  | '[' :: '[' :: header => do
    let (keys, rest) ← readKeyPath? header
    let rest ← dropStart? [']', ']'] rest
    some (← draft.openNext keys, ← skipLine? rest)
  | '[' :: header => do
    let (keys, rest) ← readKeyPath? header
    let rest ← dropStart? [']'] rest
    some (← draft.openTable keys, ← skipLine? rest)
  | _ => do
    let (keys, rest) ← readAssignment? text
    let (value, rest) ← readValue? (2 * rest.length + 2) greatestDepth rest
    some (← draft.assign keys value, ← skipLine? rest)

/-- The draft after all lines of a text, in at most `limit` steps. -/
def readLines? : (limit : Nat) → Draft → List Char → Option Draft
  | 0, _, _ => none
  | limit + 1, draft, text => do
    match ← skipGap? false text with
    | [] => some draft
    | text =>
      let (draft, rest) ← draft.readLine? text
      draft.readLines? limit rest

end Draft

/-- The entries of the table that a text describes.  A byte order mark before it is passed over. -/
def readDocument? (text : String) : Option (List (String × Value)) :=
  let body := match text.toList with
    | '\ufeff' :: body => body
    | body => body
  (Draft.readLines? (body.length + 1) {} body).map fun draft ↦ finishedEntries draft.root

end ViewPreview.Settings
