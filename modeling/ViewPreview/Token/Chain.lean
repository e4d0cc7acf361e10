import ViewPreview.Outline.Basic
import ViewPreview.Token.Item

/-!
# Chains

Reading a name and what follows it as an expression: members, calls in parentheses or brackets, and
closures, the later ones of a call with labels.  All calls between two members count as one.
-/

namespace ViewPreview

open ViewPreview.Outline

/-- An item together with the call that it makes of a name before it, and whether something was left
out in it for want of a separator. -/
structure Part where
  item : Item
  call : Outline.Call Expression
  malformed : Bool
deriving Repr

/-- The text of successive parts from their first token on. -/
def Part.textOf (parts : List Part) : List Char :=
  Item.textOf (parts.map Part.item)

/-- The line that successive parts start on. -/
def Part.lineOf? (parts : List Part) : Option Nat :=
  parts.head?.map fun part ↦ part.item.first.line

/-- Something that may follow a name. -/
inductive Suffix where
  | member (name : String)
  | call (call : Outline.Call Expression)
deriving Repr

namespace Suffix

/-- The name of a member, if an item is one. -/
def memberName? : Item → Option String
  | .single token =>
    if token.kind == .word || token.kind == .number then some (String.ofList token.text) else none
  | .group _ _ _ => none

/-- Whether an item is a question mark directly behind an optional value. -/
def isOptionalMark (item : Item) : Bool :=
  item.isMark "?" && item.first.gap.isEmpty

/-- A call with a label for its closures. -/
def labeled (label : List Char) (call : Outline.Call Expression) : Outline.Call Expression :=
  { call with
    closures := call.closures.map fun closure ↦
      { closure with label := some (String.ofList label) } }

/-- The suffixes that a list of parts begins with, and the parts after them. -/
def split : List Part → List Suffix × List Part
  | [] => ([], [])
  | [part] =>
    if isOptionalMark part.item then ([], [])
    else if part.item.isGrouped then ([.call part.call], [])
    else ([], [part])
  | part :: next :: parts =>
    if isOptionalMark part.item then split (next :: parts)
    else if part.item.isGrouped then
      let others := split (next :: parts)
      (.call part.call :: others.1, others.2)
    else
      match part.item.isMark ".", memberName? next.item with
      | true, some name =>
        let others := split parts
        (.member name :: others.1, others.2)
      | _, _ =>
        match part.item.word?, next.item.isMark ":", parts with
        | some label, true, closure :: rest =>
          if closure.item.isGroup "\x7b" then
            let others := split rest
            (.call (labeled label closure.call) :: others.1, others.2)
          else ([], part :: next :: parts)
        | _, _, _ => ([], part :: next :: parts)

/-- The call of the name before some suffixes, and the chain of modifiers that they make, which
starts on a given line. -/
def chain (line : Nat) : List Suffix → Option (Outline.Call Expression) × List (Link Expression)
  | [] => (none, [])
  | .call first :: suffixes =>
    let (others, links) := chain line suffixes
    (some (first.append (others.getD {})), links)
  | .member name :: suffixes =>
    let (made, links) := chain line suffixes
    (none, .call (some line) name (made.getD {}) :: links)

end Suffix

/-- The expression that a list of parts begins with, if it begins with a name, and the parts after
it. -/
def leadingExpression? : List Part → Option (Expression × List Part)
  | [] => none
  | part :: parts =>
    part.item.word?.map fun name ↦
      let (suffixes, rest) := Suffix.split parts
      let (call, links) := Suffix.chain part.item.first.line suffixes
      (⟨String.ofList name, call, links⟩, rest)

/-- The expression that a list of parts is. -/
def wholeExpression? (parts : List Part) : Option Expression :=
  match leadingExpression? parts with
  | some (expression, []) => some expression
  | _ => none

end ViewPreview
