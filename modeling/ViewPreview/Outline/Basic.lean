import ViewPreview.Text.Blank

/-!
# Outlines of View Expressions

What a reader finds in the source of a view before any of it is given a meaning: the name of a
constructor, the arguments and closures of its call, and the links of the modifier chain behind it.
Closures hold statements, and statements and arguments hold expressions again when they have this
form.

Lines are counted from one.  Text that is read apart from its source has no line.
-/

namespace ViewPreview.Outline

/-- A statement: its text from its first character on, and the expression it consists of if it has
the form of one. -/
structure Statement (E : Type) where
  line : Option Nat
  text : List Char
  expression : Option E
deriving Repr

/-- A closure with its label, the name of its parameter, and its statements. -/
structure Closure (E : Type) where
  label : Option String
  parameter : Option String
  statements : List (Statement E)
deriving Repr

/-- An argument: its label and text, and the expression it consists of if it has the form of one. -/
structure Argument (E : Type) where
  label : Option String
  text : List Char
  expression : Option E
deriving Repr

/-- The arguments and closures of a call. -/
structure Call (E : Type) where
  arguments : List (Argument E) := []
  closures : List (Closure E) := []
deriving Repr

/-- Two successive calls of a name as one. -/
def Call.append {E : Type} (first second : Call E) : Call E :=
  ⟨first.arguments ++ second.arguments, first.closures ++ second.closures⟩

/-- A link of a modifier chain.  An `unread` link is one whose arguments the reader cannot tell
apart. -/
inductive Link (E : Type) where
  | call (line : Option Nat) (name : String) (call : Call E)
  | unread (line : Option Nat) (name : String)
deriving Repr

/-- A name, its call if it is called, and the modifier chain behind it. -/
structure Expression where
  name : String
  call : Option (Call Expression)
  links : List (Link Expression)
deriving Repr

instance : Inhabited Expression :=
  ⟨⟨"", none, []⟩⟩

/-- The body of a view declaration as a reader finds it: what is wrong with the source as a whole,
the text of the body's expression, and the expression itself if it has the form of one. -/
structure Body (C : Type) where
  caveats : List C
  text : List Char
  expression : Option Expression
deriving Repr

end ViewPreview.Outline
