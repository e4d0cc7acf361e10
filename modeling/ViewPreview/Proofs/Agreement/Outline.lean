import ViewPreview.Proofs.Agreement.SimpleView
import ViewPreview.Proofs.Canonical.Constructor

/-!
# Outlines of Simple Views

What the outline of a simple view stands for, whichever way of reading it was found by.  Its
arguments must have the labels and texts of the operands, and expressions that stand for their
views; its modifiers must have such arguments and stand on one line.
-/

namespace ViewPreview.Agreement

open ViewPreview.Text ViewPreview.Call ViewPreview.Number ViewPreview.Outline
open ViewPreview.Canonical (Leaf Container kindName StandFor bodyClosure)

/-! ## Arguments -/

/-- Whether an argument is the outline of an operand. -/
structure IsOperand (outline : Outline.Argument Expression) (operand : Operand) : Prop where
  plain : outline.plain = operand.written.argument
  viewed : argumentView outline = ⟨operand.viewed, []⟩

/-- An expression stands for the view of an operand, or there is none of either. -/
theorem isOperand_of_expression {outline : Outline.Argument Expression} {operand : Operand}
    (plain : outline.plain = operand.written.argument)
    (viewed : optionalView? outline.expression = operand.atom.view?.map fun view ↦ ⟨view, []⟩) :
    IsOperand outline operand := by
  refine ⟨plain, ?_⟩
  obtain ⟨label, text, expression⟩ := outline
  have sameArgument : (⟨label, text, none⟩ : Call.Argument) = operand.written.argument := plain
  rw [argumentView]
  simp only at viewed
  rw [viewed, Operand.viewed, ← sameArgument]
  cases operand.atom.view? with
  | none => rfl
  | some view => rfl

/-- Whether arguments are the outlines of operands. -/
def AreOperands (outlines : List (Outline.Argument Expression)) (operands : List Operand) : Prop :=
  List.Forall₂ IsOperand outlines operands

section Operands

variable {outlines : List (Outline.Argument Expression)} {operands : List Operand}

theorem AreOperands.map_plain (areOperands : AreOperands outlines operands) :
    outlines.map Argument.plain = operands.map fun operand ↦ operand.written.argument := by
  induction areOperands with
  | nil => rfl
  | cons isOperand _ ih => rw [List.map_cons, List.map_cons, isOperand.plain, ih]

theorem AreOperands.argumentViews_eq (areOperands : AreOperands outlines operands) :
    argumentViews outlines = ⟨operands.map Operand.viewed, []⟩ := by
  induction areOperands with
  | nil => rfl
  | cons isOperand _ ih =>
    rw [argumentViews, isOperand.viewed, ih]
    rfl

theorem AreOperands.standFor (areOperands : AreOperands outlines operands) :
    StandFor outlines (operands.map Operand.written) := by
  rw [StandFor, areOperands.map_plain, List.map_map]
  rfl

end Operands

/-! ## Modifiers -/

/-- Whether a link on a line is the outline of a modifier. -/
inductive IsModification (line : Nat) : Link Expression → Modification → Prop
  | call {outlines : List (Outline.Argument Expression)} {modification : Modification}
      (areOperands : AreOperands outlines modification.operands) :
      IsModification line (.call (some line) modification.name.string ⟨outlines, []⟩) modification

theorem IsModification.followLink_eq {line : Nat} {link : Link Expression}
    {modification : Modification} (isModification : IsModification line link modification)
    (base : View) (caveats : List Caveat) :
    followLink ⟨base, caveats⟩ link =
      ⟨base.addModifier modification.modifier, caveats ++ modification.caveats line⟩ := by
  obtain @⟨outlines, _, areOperands⟩ := isModification
  have values : (if argumentTakesView modification.name.string then argumentViews outlines
      else ⟨outlines.map Argument.plain, []⟩) = ⟨modification.arguments.values, []⟩ := by
    rw [areOperands.argumentViews_eq, areOperands.map_plain, Modification.arguments]
    split
    · rfl
    · rfl
  have trailing : (if closureTakesView modification.name.string then trailingViews []
      else ⟨[], []⟩) = (⟨[], []⟩ : Reading (List View)) := by
    rw [trailingViews, ite_self]
  rw [followLink]
  simp only [values, trailing, addLink, List.append_nil]
  rfl

/-- A chain of modifiers adds them in order and reports them on its line. -/
theorem followLinks_modifications {line : Nat} {links : List (Link Expression)}
    {chain : List Modification} (areChain : List.Forall₂ (IsModification line) links chain)
    (base : View) (caveats : List Caveat) :
    followLinks ⟨base, caveats⟩ links =
      ⟨modified base chain, caveats ++ chainCaveats line chain⟩ := by
  induction areChain generalizing base caveats with
  | nil =>
    rw [followLinks, modified_nil, chainCaveats, List.flatMap_nil, List.append_nil]
  | cons isModification _ ih =>
    rw [followLinks, isModification.followLink_eq, ih, modified_cons, List.append_assoc]
    rfl

/-! ## Calls -/

section Calls

variable {outlines : List (Outline.Argument Expression)} {links : List (Link Expression)}
  {chain : List Modification} {line : Nat}

theorem follow_leaf (head : Leaf) (areOperands : AreOperands outlines (leafOperands head))
    (areChain : List.Forall₂ (IsModification line) links chain) :
    followLinks (headView head.name.string (some ⟨outlines, []⟩)) links =
      ⟨modified head.view chain, chainCaveats line chain⟩ := by
  have standFor := areOperands.standFor
  rw [map_written_leafOperands] at standFor
  rw [Canonical.headView_leaf head standFor, followLinks_modifications areChain, List.nil_append]

variable {statements : List (Outline.Statement Expression)} {caveats : List Caveat}

theorem follow_block (head : Container)
    (areOperands : AreOperands outlines (containerOperands head)) {views : List View}
    (shown : statementViews statements = ⟨views, caveats⟩)
    (areChain : List.Forall₂ (IsModification line) links chain) :
    followLinks (headView (kindName head.kind).string
        (some ⟨outlines, [bodyClosure none statements]⟩)) links =
      ⟨modified ⟨head.kind, head.properties, [], views⟩ chain,
        caveats ++ chainCaveats line chain⟩ := by
  have standFor := areOperands.standFor
  rw [map_written_containerOperands] at standFor
  rw [Canonical.headView_container head standFor shown, followLinks_modifications areChain]

theorem follow_repetition (rows : IntegerRange) (row : Identifier)
    (areOperands : AreOperands outlines [⟨none, .range rows⟩]) {template : View}
    (shown : statementViews statements = ⟨[template], caveats⟩)
    (areChain : List.Forall₂ (IsModification line) links chain) :
    followLinks (headView (kindName .forEach).string
        (some ⟨outlines, [bodyClosure (some row.string) statements]⟩)) links =
      ⟨modified ⟨.forEach,
          [("forEachRange", .range rows), ("rowTemplate", .view template),
            ("rowVariable", .text row.string)], [], []⟩ chain,
        caveats ++ chainCaveats line chain⟩ := by
  rw [Canonical.headView_repetition rows row areOperands.standFor shown,
    followLinks_modifications areChain]

end Calls

end ViewPreview.Agreement
