import ViewPreview.Passage.Outline

/-!
# Outlines Without Weights

The outline of a scanned expression as plain maps over its parts.  Nested expressions are given by
their own outlines; that they weigh less is only needed to see that the recursion ends.
-/

namespace ViewPreview.Passage

open ViewPreview.Text ViewPreview.Call

/-- An argument and the outline of its expression. -/
def argumentExpression (argument : Call.Argument) : Outline.Argument Outline.Expression :=
  { label := argument.label
    text := argument.text
    expression := (wholeScan? argument.text).map Scan.outline }

/-- The arguments in a text with the outlines of their expressions. -/
def argumentExpressions (text : List Char) : List (Outline.Argument Outline.Expression) :=
  (argumentsOf text).map argumentExpression

/-- A statement and the outline of its expression. -/
def ScannedStatement.outline (statement : ScannedStatement) :
    Outline.Statement Outline.Expression :=
  { line := statement.start.line
    text := statement.start.text
    expression := statement.scan.map Scan.outline }

/-- The statements of a passage with the outlines of their expressions. -/
def statementExpressions (passage : Passage) : List (Outline.Statement Outline.Expression) :=
  passage.scannedStatements.map ScannedStatement.outline

/-- A closure with the outlines of its statements. -/
def closureExpression (label : Option String) (inner : Passage) :
    Outline.Closure Outline.Expression :=
  { label
    parameter := inner.splitParameter.1
    statements := inner.splitParameter.2.statementExpressions }

/-- The closure of a block. -/
def Block.outline (block : Block) : Outline.Closure Outline.Expression :=
  closureExpression block.label block.inner

/-- A link and the outlines of what is nested in it. -/
def ChainLink.outline : ChainLink → Outline.Link Outline.Expression
  | .unread line name => .unread line name
  | .call line name arguments closure =>
    .call line name
      { arguments := argumentExpressions arguments
        closures := closure.toList.map (closureExpression none) }

/-- The call of a scanned expression. -/
def Scan.call (scan : Scan) : Option (Outline.Call Outline.Expression) :=
  if scan.isCalled then
    some
      { arguments := (scan.arguments.map argumentExpressions).getD []
        closures := scan.blocks.map Block.outline }
  else none

/-! ## The weights do not matter -/

theorem pmap_eq_map_of_forall {α β : Type} {property : α → Prop} {f : (a : α) → property a → β}
    {g : α → β} {items : List α} (all : ∀ a ∈ items, property a)
    (same : ∀ a holds, f a holds = g a) : items.pmap f all = items.map g := by
  rw [← List.pmap_eq_map all]
  apply List.pmap_congr_left
  intro a _ holds _
  exact same a holds

section Weights

variable {weight : Nat}

theorem argumentOutline_outline (argument : Call.Argument)
    (lighter : argument.text.length < weight) :
    argumentOutline (fun inner _ ↦ inner.outline) argument lighter =
      argumentExpression argument := by
  unfold argumentOutline argumentExpression
  rw [Option.pmap_eq_map]

theorem argumentOutlines_outline (text : List Char) (lighter : text.length < weight) :
    argumentOutlines (fun inner _ ↦ inner.outline) text lighter = argumentExpressions text := by
  unfold argumentOutlines argumentExpressions
  exact pmap_eq_map_of_forall _ argumentOutline_outline

theorem statementOutline_outline (statement : ScannedStatement)
    (lighter : ∀ scan, statement.scan = some scan → scan.weight < weight) :
    statementOutline (fun inner _ ↦ inner.outline) statement lighter = statement.outline := by
  unfold statementOutline ScannedStatement.outline
  rw [Option.pmap_eq_map]

theorem closureOutline_outline (label : Option String) (inner : Passage)
    (lighter : inner.length < weight) :
    closureOutline (fun inner _ ↦ inner.outline) label inner lighter =
      closureExpression label inner := by
  unfold closureOutline closureExpression statementExpressions
  congr 1
  exact pmap_eq_map_of_forall _ statementOutline_outline

theorem linkOutline_outline (link : ChainLink) (lighter : link.weight ≤ weight) :
    linkOutline (fun inner _ ↦ inner.outline) link lighter = link.outline := by
  cases link with
  | unread line name => rfl
  | call line name arguments closure =>
    cases closure with
    | none =>
      rw [linkOutline, argumentOutlines_outline]
      rfl
    | some inner =>
      rw [linkOutline, argumentOutlines_outline, closureOutline_outline]
      rfl

end Weights

theorem argumentOutlines_eq (scan : Scan) :
    scan.argumentOutlines (fun inner _ ↦ inner.outline) =
      (scan.arguments.map argumentExpressions).getD [] := by
  unfold Scan.argumentOutlines
  split
  · next written =>
    rw [written]
    rfl
  · next text written =>
    rw [argumentOutlines_outline]
    simp only [written, Option.map_some, Option.getD_some]

theorem closureOutlines_eq (scan : Scan) :
    scan.closureOutlines (fun inner _ ↦ inner.outline) = scan.blocks.map Block.outline := by
  unfold Scan.closureOutlines
  apply pmap_eq_map_of_forall
  intro block shorter
  exact closureOutline_outline block.label block.inner shorter

theorem linkOutlines_eq (scan : Scan) :
    scan.linkOutlines (fun inner _ ↦ inner.outline) = scan.links.map ChainLink.outline := by
  unfold Scan.linkOutlines
  exact pmap_eq_map_of_forall _ linkOutline_outline

/-- The outline of a scanned expression by maps over its parts. -/
theorem outline_eq (scan : Scan) :
    scan.outline = ⟨scan.name, scan.call, scan.links.map ChainLink.outline⟩ := by
  rw [Scan.outline, Scan.outlineWith, argumentOutlines_eq, closureOutlines_eq, linkOutlines_eq]
  rfl

end ViewPreview.Passage
