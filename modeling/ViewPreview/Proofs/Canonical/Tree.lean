import ViewPreview.Proofs.Canonical.Modifier
import ViewPreview.Proofs.Passage.Statement
import ViewPreview.Proofs.View.Names

/-!
# Canonical Trees

A fragment of the views that has one canonical text for every tree: texts, images, spacers,
dividers and placeholders; stacks, lists, forms, groups and scroll views around any children; and
repetitions of one view over a range of integers.  Every view may carry a chain of modifiers without
parentheses in their arguments.  Numbers are decimal numerals, so a tree has a text without
approximating a number.

Each child stands on a line of its own, and closures stand in braces that end their lines.
-/

namespace ViewPreview.Canonical

open ViewPreview.Text ViewPreview.Call ViewPreview.Number ViewPreview.Passage

/-! ## Names and calls -/

/-- The name of a kind as an identifier. -/
def kindName (kind : Kind) : Identifier where
  chars := kind.name.toList
  isIdentifier_chars := kind.isIdentifier_name

/-- The arguments of a call, if it has parentheses. -/
def parenthesesText (arguments : Option (List WrittenArgument)) : List Char :=
  match arguments with
  | none => []
  | some written => '(' :: (argumentsText written ++ [')'])

/-- The closure of a call, if it has one. -/
def closureText (closure : Option (List Char)) : List Char :=
  match closure with
  | none => []
  | some inner => ' ' :: '{' :: (inner ++ ['}'])

/-- A call as it is written. -/
def callText (name : Identifier) (arguments : Option (List WrittenArgument))
    (closure : Option (List Char)) : List Char :=
  name.chars ++ (parenthesesText arguments ++ closureText closure)

theorem lineFeeds_parenthesesText (written : List WrittenArgument) :
    lineFeeds (parenthesesText (some written)) = lineFeeds (argumentsText written) := by
  rw [parenthesesText, ← List.singleton_append, lineFeeds_append, lineFeeds_append,
    lineFeeds_eq_zero (by decide : '\n' ∉ ['(']), lineFeeds_eq_zero (by decide : '\n' ∉ [')']),
    Nat.zero_add, Nat.add_zero]

theorem lineFeeds_closureText (inner : List Char) :
    lineFeeds (closureText (some inner)) = lineFeeds inner := by
  have shape : closureText (some inner) = [' ', '{'] ++ (inner ++ ['}']) := rfl
  have opening : lineFeeds [' ', '{'] = 0 := lineFeeds_eq_zero (by decide)
  have closing : lineFeeds ['}'] = 0 := lineFeeds_eq_zero (by decide)
  rw [shape, lineFeeds_append, lineFeeds_append, opening, closing, Nat.zero_add, Nat.add_zero]

theorem lineFeeds_callText (name : Identifier) (arguments : Option (List WrittenArgument))
    (closure : Option (List Char)) :
    lineFeeds (callText name arguments closure) =
      lineFeeds (parenthesesText arguments) + lineFeeds (closureText closure) := by
  rw [callText, lineFeeds_append, lineFeeds_append,
    lineFeeds_eq_zero (name.not_mem_chars (by decide)), Nat.zero_add]

/-! ## Leaves -/

/-- A view without children, before its modifiers. -/
inductive Leaf where
  | text (content : PlainText)
  | image (symbol : PlainText)
  | spacer
  | divider
  | placeholder (name : Identifier) (isPlaceholder : isPlaceholderName name.string = true)

namespace Leaf

/-- The constructor of a leaf. -/
def name : Leaf → Identifier
  | .text _ => kindName .text
  | .image _ => kindName .image
  | .spacer => kindName .spacer
  | .divider => kindName .divider
  | .placeholder name _ => name

/-- The arguments that a leaf is written with. -/
def written : Leaf → List WrittenArgument
  | .text content => [.plain content.isValue_quoted]
  | .image symbol => [.labeled (label "systemName" (by decide)) symbol.isValue_quoted]
  | .spacer | .divider | .placeholder _ _ => []

/-- The view that a leaf stands for. -/
def view : Leaf → View
  | .text content => ⟨.text, [("text", .text content.string)], [], []⟩
  | .image symbol => ⟨.image, [("systemName", .text symbol.string)], [], []⟩
  | .spacer => ⟨.spacer, [], [], []⟩
  | .divider => ⟨.divider, [], [], []⟩
  | .placeholder name _ => View.placeholder name.string

end Leaf

/-! ## Containers -/

/-- The kinds of stacks. -/
def stackKinds : List Kind :=
  [.vStack, .hStack, .zStack, .lazyVStack, .lazyHStack]

/-- The kinds of containers that are written without arguments. -/
def plainKinds : List Kind :=
  [.list, .form, .group, .scrollView]

/-- A view around children, before its modifiers. -/
inductive Container where
  | stack (kind : Kind) (isStack : kind ∈ stackKinds) (alignment : Option Identifier)
      (spacing : Option Numeral)
  | plain (kind : Kind) (isPlain : kind ∈ plainKinds)

namespace Container

/-- The kind of a container. -/
def kind : Container → Kind
  | .stack kind _ _ _ => kind
  | .plain kind _ => kind

/-- The arguments that a container is written with. -/
def written : Container → List WrittenArgument
  | .stack _ _ alignment spacing =>
    (alignment.toList.map fun alignment ↦
      .labeled (label "alignment" (by decide)) (isValue_caseText alignment)) ++
    spacing.toList.map fun spacing ↦
      .labeled (label "spacing" (by decide)) (isValue_numeral spacing)
  | .plain _ _ => []

/-- The arguments of a container.  Without any it has no parentheses. -/
def arguments (container : Container) : Option (List WrittenArgument) :=
  if container.written.isEmpty then none else some container.written

/-- The properties of a container. -/
def properties : Container → List (String × PropertyValue View)
  | .stack _ _ alignment spacing =>
    (alignment.toList.map fun alignment ↦ ("alignment", .token alignment.string)) ++
      spacing.toList.map fun spacing ↦ ("spacing", .number spacing.value)
  | .plain _ _ => []

end Container

/-! ## Trees -/

/-- A canonical tree: a leaf, a container around any children, or a repetition of one template over
a range, each with a chain of modifiers. -/
inductive Tree where
  | leaf (head : Leaf) (chain : List Adjustment)
  | block (head : Container) (children : List Tree) (chain : List Adjustment)
  | repetition (rows : IntegerRange) (row : Identifier) (template : Tree)
      (chain : List Adjustment)

/-- A chain of modifiers as it is written. -/
def chainText (chain : List Adjustment) : List Char :=
  chain.flatMap fun adjustment ↦ linkText adjustment.name (argumentsText adjustment.written)

/-- The view with the modifiers of a chain. -/
def adjusted (view : View) (chain : List Adjustment) : View :=
  { view with modifiers := view.modifiers ++ chain.map Adjustment.modifier }

theorem adjusted_nil (view : View) : adjusted view [] = view := by
  cases view
  rw [adjusted, List.map_nil, List.append_nil]

theorem adjusted_cons (view : View) (adjustment : Adjustment) (chain : List Adjustment) :
    adjusted view (adjustment :: chain) =
      adjusted (view.addModifier adjustment.modifier) chain := by
  rw [adjusted, adjusted, View.addModifier, List.map_cons, List.append_assoc]
  rfl

/-- The arguments that a repetition is written with. -/
def rangeArguments (rows : IntegerRange) : List WrittenArgument :=
  [.plain (isValue_rangeText rows)]

/-- The parameter of a closure up to the end of its line. -/
def parameterText (row : Identifier) : List Char :=
  ' ' :: (row.chars ++ [' ', 'i', 'n'])

theorem noBreak_parameterText (row : Identifier) : '\n' ∉ parameterText row := by
  rw [parameterText, List.mem_cons, not_or]
  exact ⟨by decide, List.not_mem_append (row.not_mem_chars (by decide)) (by decide)⟩

namespace Tree

mutual

/-- The canonical text of a tree. -/
def text : Tree → List Char
  | .leaf head chain => callText head.name (some head.written) none ++ chainText chain
  | .block head children chain =>
    callText (kindName head.kind) head.arguments (some ('\n' :: lines children)) ++
      chainText chain
  | .repetition rows row template chain =>
    callText (kindName .forEach) (some (rangeArguments rows))
        (some (parameterText row ++ '\n' :: (template.text ++ ['\n']))) ++
      chainText chain

/-- The canonical texts of trees, each on lines of its own. -/
def lines : List Tree → List Char
  | [] => []
  | tree :: trees => tree.text ++ '\n' :: lines trees

end

mutual

/-- The view that a tree stands for. -/
def view : Tree → View
  | .leaf head chain => adjusted head.view chain
  | .block head children chain =>
    adjusted ⟨head.kind, head.properties, [], views children⟩ chain
  | .repetition rows row template chain =>
    adjusted
      { kind := .forEach
        properties :=
          [("forEachRange", .range rows), ("rowTemplate", .view template.view),
            ("rowVariable", .text row.string)]
        modifiers := []
        children := [] }
      chain

/-- The views that trees stand for. -/
def views : List Tree → List View
  | [] => []
  | tree :: trees => tree.view :: views trees

end

end Tree

end ViewPreview.Canonical
