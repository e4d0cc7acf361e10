import ViewPreview.Proofs.Outline.Skipped
import ViewPreview.Proofs.Passage.Progress

/-!
# Lines of Scanned Expressions

Every passage that is taken off a passage with a line has a line, and off one without a line none.
So what is scanned in a source has lines, in the closures of calls and modifiers at any depth, and
what is scanned in an argument has none.
-/

namespace ViewPreview.Passage

open ViewPreview.Outline (Expression)

/-- Whether a passage has a line. -/
def isLocated (passage : Passage) : Bool :=
  passage.line.isSome

/-- A later passage has a line if the one before it has. -/
theorem Leads.isLocated_eq {passage rest : Passage} (leads : Leads passage rest) :
    rest.isLocated = passage.isLocated := by
  rw [leads.placed]
  exact Option.isSome_map

theorem isLocated_of_block? {opening closing : Char} {passage inner rest : Passage}
    (found : passage.block? opening closing = some (inner, rest)) :
    inner.isLocated = passage.isLocated := by
  obtain ⟨-, start, toStart, line, -⟩ := leads_of_block? found
  rw [isLocated, ← line]
  exact toStart.isLocated_eq

/-! ## Closures and links -/

/-- Whether a block has a line, or has none. -/
def Block.Placed (block : Block) (located : Bool) : Prop :=
  block.inner.isLocated = located

/-- Whether a link and its closure have lines, or have none. -/
def ChainLink.Placed : ChainLink → Bool → Prop
  | .call line _ _ closure, located =>
    line.isSome = located ∧ ∀ inner ∈ closure, inner.isLocated = located
  | .unread line _, located => line.isSome = located

theorem placed_blocks {passage : Passage} {block : Block} (member : block ∈ passage.blocks.1) :
    block.Placed passage.isLocated := by
  rcases List.mem_append.mp member with first | other
  · obtain ⟨inner, rest, found, rfl⟩ := exists_of_mem_unlabeledBlock first
    exact (isLocated_of_block? found).trans
      (leads_skipWhile Text.isInlineBlank passage).isLocated_eq
  · obtain ⟨start, rest, toStart, found⟩ := exists_of_mem_repeatStep advances_labeledBlock? other
    obtain ⟨brace, toBrace, opened⟩ := exists_of_labeledBlock? found
    exact (isLocated_of_block? opened).trans
      (((leads_unlabeledBlock passage).trans toStart).trans toBrace).isLocated_eq

theorem placed_link {passage rest : Passage} {link : ChainLink}
    (found : link? passage = some (link, rest)) : link.Placed passage.isLocated := by
  obtain ⟨-, -, name, behind, toBehind, linked⟩ := exists_behind_of_link? found
  have located : link.outline.line?.isSome = passage.isLocated := by
    rw [line_of_linkAfterName? linked]
    exact (leads_skipWhile Text.isAsciiBlank passage).isLocated_eq
  cases link with
  | unread line own => exact located
  | call line own arguments closure =>
    refine ⟨located, fun inner closed ↦ ?_⟩
    obtain rfl := Option.mem_def.mp closed
    obtain ⟨brace, toBrace, opened⟩ := exists_of_linkAfterName? linked
    exact (isLocated_of_block? opened).trans (toBehind.trans toBrace).isLocated_eq

/-! ## Expressions and statements -/

/-- Whether the closures and links of a scanned expression have lines, or have none. -/
def Scan.Placed (scan : Scan) (located : Bool) : Prop :=
  (∀ block ∈ scan.blocks, block.Placed located) ∧ ∀ link ∈ scan.links, link.Placed located

theorem placed_scan {passage rest : Passage} {scan : Scan}
    (found : passage.scan? = some (scan, rest)) : scan.Placed passage.isLocated := by
  obtain ⟨called, behind, blocks, links, -⟩ := exists_of_scan? found
  have toCalled := leads_of_afterArguments? behind
  rw [Scan.Placed, blocks, links]
  constructor
  · intro block member
    rw [← toCalled.isLocated_eq]
    exact placed_blocks member
  · intro link member
    obtain ⟨start, after, toStart, linked⟩ := exists_of_mem_repeatStep advances_link? member
    rw [← ((toCalled.trans (leads_blocks called)).trans toStart).isLocated_eq]
    exact placed_link linked

/-- Whether a statement and its expression have lines, or have none. -/
def ScannedStatement.Placed (statement : ScannedStatement) (located : Bool) : Prop :=
  statement.start.isLocated = located ∧ ∀ scan ∈ statement.scan, scan.Placed located

theorem placed_scannedStatements {passage : Passage} {statement : ScannedStatement}
    (member : statement ∈ passage.scannedStatements) : statement.Placed passage.isLocated := by
  obtain ⟨toStart, isScan, -⟩ := exists_of_mem_scannedStatements member
  refine ⟨toStart.isLocated_eq, fun scan scanned ↦ ?_⟩
  obtain ⟨⟨own, rest⟩, found, rfl⟩ := Option.map_eq_some_iff.mp (isScan.symm.trans scanned)
  rw [← toStart.isLocated_eq]
  exact placed_scan found

/-! ## Outlines -/

/-- Whether the statements of a closure are those of a passage that has a line, or has none. -/
def IsOutlined (located : Bool) (closure : Outline.Closure Expression) : Prop :=
  ∀ statement ∈ closure.statements, ∃ scanned : ScannedStatement,
    scanned.Placed located ∧ statement = scanned.outline

theorem isOutlined_closureExpression (label : Option String) (inner : Passage) :
    IsOutlined inner.isLocated (closureExpression label inner) := by
  intro statement member
  obtain ⟨scanned, found, rfl⟩ := List.mem_map.mp member
  have placed := placed_scannedStatements found
  rw [(leads_splitParameter inner).isLocated_eq] at placed
  exact ⟨scanned, placed, rfl⟩

/-- The calls in an outline have arguments read from text and closures read from passages. -/
theorem outlined_of_mem_calls {scan : Scan} {located : Bool} (placed : scan.Placed located)
    {call : Outline.Call Expression} (member : call ∈ scan.outline.calls) :
    (∀ argument ∈ call.arguments, ∃ written, argument = argumentExpression written) ∧
      ∀ closure ∈ call.closures, IsOutlined located closure := by
  have written (text : List Char) : ∀ argument ∈ argumentExpressions text,
      ∃ written, argument = argumentExpression written := by
    intro argument inside
    obtain ⟨written, -, rfl⟩ := List.mem_map.mp inside
    exact ⟨written, rfl⟩
  rw [outline_eq, Expression.calls, List.mem_append, Option.mem_toList, List.mem_filterMap] at member
  rcases member with ofHead | ⟨link, inside, makes⟩
  · rw [Scan.call] at ofHead
    split at ofHead
    · cases ofHead
      refine ⟨?_, ?_⟩
      · cases scan.arguments with
        | none => exact List.forall_mem_nil _
        | some text => exact written text
      · intro closure inBlocks
        obtain ⟨block, ofScan, rfl⟩ := List.mem_map.mp inBlocks
        rw [← placed.1 block ofScan]
        exact isOutlined_closureExpression block.label block.inner
    · cases ofHead
  · obtain ⟨scanned, ofScan, rfl⟩ := List.mem_map.mp inside
    have ofLink := placed.2 scanned ofScan
    cases scanned with
    | unread line name => cases makes
    | call line name text inner =>
      cases makes
      refine ⟨written text, ?_⟩
      intro closure inClosures
      obtain ⟨passage, closed, rfl⟩ := List.mem_map.mp inClosures
      rw [← ofLink.2 passage (Option.mem_toList.mp closed)]
      exact isOutlined_closureExpression none passage

theorem placed_wholeScan {text : List Char} {scan : Scan} (found : wholeScan? text = some scan) :
    scan.Placed false := by
  unfold wholeScan? at found
  split at found
  · next whole rest scanned =>
    split at found
    · cases found
      exact placed_scan scanned
    · cases found
  · cases found

/-- In the outline of what is scanned, closures have lines if the passage has one, and arguments
have none. -/
theorem placed_outline {scan : Scan} {located : Bool} (placed : scan.Placed located) :
    scan.outline.Placed located := by
  generalize same : scan.outline = expression
  induction expression using Expression.inner_induction generalizing scan located with
  | step expression ih =>
    subst same
    have ofStatement {statement : Outline.Statement Expression}
        (read : statement ∈ scan.outline.readStatements) :
        ∃ scanned : ScannedStatement, scanned.Placed located ∧ statement = scanned.outline := by
      obtain ⟨call, consists, closure, inside, deeper⟩ :=
        Outline.exists_call_of_mem_readStatements read
      exact (outlined_of_mem_calls placed consists).2 closure inside statement deeper
    refine .intro ?links ?arguments ?lines ?statements
    case links =>
      intro link member
      rw [outline_eq] at member
      obtain ⟨scanned, ofScan, rfl⟩ := List.mem_map.mp member
      have ofLink := placed.2 scanned ofScan
      cases scanned with
      | unread line name => exact ofLink
      | call line name text inner => exact ofLink.1
    case arguments =>
      intro argument read inner found
      obtain ⟨call, consists, inside⟩ := Outline.exists_call_of_mem_readArguments read
      obtain ⟨written, rfl⟩ := (outlined_of_mem_calls placed consists).1 argument inside
      obtain ⟨scanned, whole, same⟩ :=
        Option.map_eq_some_iff.mp (Option.filter_eq_some_iff.mp found).1
      exact ih inner (Outline.mem_inner_of_argument read found) (placed_wholeScan whole) same
    case lines =>
      intro statement read
      obtain ⟨scanned, ofScanned, rfl⟩ := ofStatement read
      exact ofScanned.1
    case statements =>
      intro statement read inner found
      obtain ⟨scanned, ofScanned, rfl⟩ := ofStatement read
      obtain ⟨scan', whole, same⟩ :=
        Option.map_eq_some_iff.mp (Option.filter_eq_some_iff.mp found).1
      exact ih inner (Outline.mem_inner_of_statement read found) (ofScanned.2 scan' whole) same

end ViewPreview.Passage
