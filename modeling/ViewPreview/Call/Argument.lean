import ViewPreview.Call.Nesting
import ViewPreview.View.Basic

/-!
# Arguments of a Call

A call's arguments as a list of texts with optional labels.  An argument may carry the view its text
stands for, when the callee takes views, and the call carries the views of a trailing closure that
builds one.
-/

namespace ViewPreview.Call

open ViewPreview.Text

/-- One argument of a call. -/
structure Argument where
  label : Option String
  text : List Char
  view : Option View := none
deriving Repr

/-- The arguments of a call and the views of its trailing closure. -/
structure Arguments where
  values : List Argument := []
  trailing : List View := []
deriving Repr

/-- Split a label and its colon off the start of a text. -/
def splitLabel? (text : List Char) : Option (String × List Char) :=
  match splitIdentifier? (trimStart text) with
  | some (label, rest) =>
    match trimStart rest with
    | ':' :: value => some (String.ofList label, value)
    | _ => none
  | none => none

namespace Argument

/-- Read an argument with an optional label. -/
def ofText (text : List Char) : Argument :=
  match splitLabel? text with
  | some (label, value) => { label := some label, text := trim value }
  | none => { label := none, text := trim text }

/-- Whether an argument is a string literal. -/
def isQuoted (argument : Argument) : Bool :=
  Call.isQuoted argument.text

/-- The text of an argument: the content of a string literal, else the text itself unless it is
blank. -/
def content? (argument : Argument) : Option String :=
  if argument.isQuoted then stringLiteral? argument.text
  else
    let text := trim argument.text
    if text.isEmpty then none else some (String.ofList text)

end Argument

/-- The arguments written between the parentheses of a call. -/
def argumentsOf (inner : List Char) : List Argument :=
  ((splitTopLevel ',' inner).filter fun part ↦ !(trim part).isEmpty).map Argument.ofText

namespace Arguments

/-- The arguments written between the parentheses of a call that has no trailing closure. -/
def ofText (inner : List Char) : Arguments :=
  { values := argumentsOf inner }

/-- The first argument with a label. -/
def labeled? (arguments : Arguments) (label : String) : Option Argument :=
  arguments.values.find? fun argument ↦ argument.label == some label

/-- The arguments without a label. -/
def unlabeled (arguments : Arguments) : List Argument :=
  arguments.values.filter fun argument ↦ argument.label.isNone

/-- The first argument without a label. -/
def firstUnlabeled? (arguments : Arguments) : Option Argument :=
  arguments.unlabeled.head?

/-- The first argument without a label, else the first argument. -/
def first? (arguments : Arguments) : Option Argument :=
  arguments.firstUnlabeled?.or arguments.values.head?

/-- The content of the first argument that is a string literal without a label. -/
def firstString? (arguments : Arguments) : Option String :=
  (arguments.unlabeled.find? Argument.isQuoted).bind fun argument ↦ stringLiteral? argument.text

/-- The number in the argument with a label. -/
def labeledNumber? (arguments : Arguments) (label : String) : Option Float :=
  (arguments.labeled? label).bind fun argument ↦ Number.first? argument.text

/-- The enumeration case that the argument with a label names. -/
def labeledToken? (arguments : Arguments) (label : String) : Option String :=
  (arguments.labeled? label).bind fun argument ↦ token? argument.text

/-- The string in the argument with a label. -/
def labeledString? (arguments : Arguments) (label : String) : Option String :=
  (arguments.labeled? label).bind fun argument ↦ stringLiteral? argument.text

end Arguments

end ViewPreview.Call
