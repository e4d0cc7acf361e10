import ViewPreview.Text.Occurrence

/-!
# JSON Values

JSON values whose objects keep the order of their members, and their indented text.  A number is
held as the numeral that is written for it, so that the choice of its layout belongs to whoever
makes the value.
-/

namespace ViewPreview

/-- A JSON value. -/
inductive Json where
  | null
  | bool (value : Bool)
  | numeral (text : String)
  | string (text : String)
  | array (items : List Json)
  | object (members : List (String × Json))
deriving Repr, Inhabited

namespace Json

/-- A string, or `null` in its absence. -/
def optionalString (text : Option String) : Json :=
  (text.map string).getD null

/-- An array of strings. -/
def strings (texts : List String) : Json :=
  array (texts.map string)

/-- A control character by its code in four hexadecimal digits. -/
def controlEscape (c : Char) : List Char :=
  '\\' :: 'u' :: '0' :: '0' :: [Nat.digitChar (c.toNat / 16), Nat.digitChar (c.toNat % 16)]

/-- A character as it is written in a string. -/
def escapeChar (c : Char) : List Char :=
  match c with
  | '"' => ['\\', '"']
  | '\\' => ['\\', '\\']
  | '\n' => ['\\', 'n']
  | '\r' => ['\\', 'r']
  | '\t' => ['\\', 't']
  | '\x08' => ['\\', 'b']
  | '\x0c' => ['\\', 'f']
  | c => if c.toNat < 32 then controlEscape c else [c]

/-- A string between its quotes. -/
def quote (text : String) : String :=
  String.ofList ('"' :: (text.toList.flatMap escapeChar ++ ['"']))

/-- The start of a line at a level of nesting. -/
def lineStart (level : Nat) : String :=
  "\n" ++ String.ofList (List.replicate (2 * level) ' ')

mutual

/-- The text of a value at a level of nesting. -/
def writeAt (level : Nat) : Json → String
  | .null => "null"
  | .bool value => if value then "true" else "false"
  | .numeral text => text
  | .string text => quote text
  | .array [] => "[]"
  | .array (item :: items) =>
    "[" ++ lineStart (level + 1) ++ writeAt (level + 1) item ++ writeItems (level + 1) items ++
      lineStart level ++ "]"
  | .object [] => "\x7b\x7d"
  | .object (member :: members) =>
    "\x7b" ++ lineStart (level + 1) ++ writeMember (level + 1) member ++
      writeMembers (level + 1) members ++ lineStart level ++ "\x7d"

/-- The text of the items of an array after the first. -/
def writeItems (level : Nat) : List Json → String
  | [] => ""
  | item :: items => "," ++ lineStart level ++ writeAt level item ++ writeItems level items

/-- The text of a member of an object. -/
def writeMember (level : Nat) : String × Json → String
  | (name, value) => quote name ++ ": " ++ writeAt level value

/-- The text of the members of an object after the first. -/
def writeMembers (level : Nat) : List (String × Json) → String
  | [] => ""
  | member :: members =>
    "," ++ lineStart level ++ writeMember level member ++ writeMembers level members

end

/-- The text of a value, each item and member on a line of its own. -/
def write (value : Json) : String :=
  value.writeAt 0

end Json

end ViewPreview
