import ViewPreview.Proofs.Call.Nesting
import ViewPreview.Proofs.Outline.Complete
import ViewPreview.Proofs.Passage.Outline
import ViewPreview.Proofs.Passage.Scan
import ViewPreview.Proofs.Passage.Search
import ViewPreview.Proofs.Passage.Statement

/-!
# Progress of Scanning

Every step of scanning leads from a passage to a later one: to a passage on the rest of its text,
with the line that the rest starts on.  The steps that are repeated (a closure behind its label, a
link of a modifier chain, a statement of a block) are strict: they leave less text than they found.
-/

namespace ViewPreview.Passage

open ViewPreview.Text ViewPreview.Call

/-- Whether scanning may get from a passage to another one, which is on the rest of its text and has
the line of that place. -/
structure Leads (passage rest : Passage) : Prop where
  suffix : rest.text <:+ passage.text
  placed : rest = passage.moveTo rest.text

namespace Leads

variable {passage middle rest : Passage}

theorem refl (passage : Passage) : Leads passage passage := by
  obtain ⟨line, text⟩ := passage
  refine ⟨List.suffix_rfl, ?_⟩
  cases line with
  | none => rfl
  | some number => exact (moveTo_self number text).symm

theorem moveTo {text : List Char} (suffix : text <:+ passage.text) :
    Leads passage (passage.moveTo text) :=
  ⟨suffix, rfl⟩

/-- A later place is the text before it further on. -/
theorem exists_append (leads : Leads passage rest) :
    ∃ passed, passage.text = passed ++ rest.text ∧
      rest.line = passage.line.map (· + lineFeeds passed) := by
  obtain ⟨passed, whole⟩ := leads.suffix
  refine ⟨passed, whole.symm, ?_⟩
  have moved := moveTo_append passage.line passed rest.text
  rw [whole] at moved
  rw [leads.placed]
  exact congrArg Passage.line moved

theorem of_append {passed : List Char} (whole : passage.text = passed ++ rest.text)
    (line : rest.line = passage.line.map (· + lineFeeds passed)) : Leads passage rest := by
  refine ⟨⟨passed, whole.symm⟩, ?_⟩
  have moved := moveTo_append passage.line passed rest.text
  rw [← whole, ← line] at moved
  exact moved.symm

theorem trans (first : Leads passage middle) (second : Leads middle rest) : Leads passage rest := by
  obtain ⟨front, whole, line⟩ := first.exists_append
  obtain ⟨back, others, lineOfRest⟩ := second.exists_append
  refine of_append (?_ : passage.text = (front ++ back) ++ rest.text) ?_
  · rw [whole, others, List.append_assoc]
  · rw [lineOfRest, line, Option.map_map]
    congr 1
    funext number
    rw [Function.comp_apply, lineFeeds_append, Nat.add_assoc]

theorem length_le (leads : Leads passage rest) : rest.length ≤ passage.length :=
  leads.suffix.length_le

end Leads

theorem leads_skipWhile (condition : Char → Bool) (passage : Passage) :
    Leads passage (passage.skipWhile condition) :=
  .moveTo (List.dropWhile_suffix condition)

/-! ## Blocks -/

section Blocks

variable {passage inner rest : Passage}

/-- A block stands between its brackets: its inside starts behind the opening one and is followed by
the closing one, behind which the rest starts. -/
theorem leads_of_block? {opening closing : Char}
    (found : passage.block? opening closing = some (inner, rest)) :
    Leads passage rest ∧
      ∃ start, Leads passage start ∧ start.line = inner.line ∧
        start.text = inner.text ++ closing :: rest.text ∧
        passage.text = opening :: start.text := by
  unfold block? at found
  split at found
  · cases found
  · next c text written =>
    split at found
    · next isOpening =>
      obtain ⟨⟨content, behind⟩, split, same⟩ := Option.map_eq_some_iff.mp found
      cases same
      have shape := append_of_splitClosing? split
      have toStart : text <:+ passage.text := by
        rw [written]
        exact List.suffix_cons c text
      have toRest : behind <:+ passage.text := by
        rw [shape] at toStart
        exact (List.suffix_append_of_suffix (List.suffix_cons closing behind)).trans toStart
      refine ⟨.moveTo toRest, passage.moveTo text, .moveTo toStart, rfl, shape, ?_⟩
      rw [written, isOpening]
      rfl
    · cases found

theorem leads_of_trailingBlock? (found : passage.trailingBlock? = some (inner, rest)) :
    Leads passage rest :=
  (leads_skipWhile isInlineBlank passage).trans (leads_of_block? found).1

end Blocks

/-! ## Repeated steps -/

section Repeat

variable {α : Type} {step : Passage → Option (α × Passage)}

/-- Whether a step gets further whenever it finds something. -/
def Advances (step : Passage → Option (α × Passage)) : Prop :=
  ∀ passage found rest, step passage = some (found, rest) →
    Leads passage rest ∧ rest.length < passage.length

/-- A step that gets further is repeated until it finds nothing more. -/
theorem repeatStep_eq (advances : Advances step) (passage : Passage) :
    repeatStep step passage =
      match step passage with
      | none => ([], passage)
      | some (found, rest) => (found :: (repeatStep step rest).1, (repeatStep step rest).2) := by
  cases moved : step passage with
  | none => exact repeatStep_eq_nil moved
  | some parts => exact repeatStep_cons moved (advances passage parts.1 parts.2 moved).2

theorem leads_repeatStep (advances : Advances step) (passage : Passage) :
    Leads passage (repeatStep step passage).2 := by
  fun_induction repeatStep step passage with
  | case1 passage stuck => exact .refl passage
  | case2 passage found rest moved shorter others ih =>
    exact (advances passage found rest moved).1.trans ih
  | case3 passage found rest moved notShorter =>
    exact absurd (advances passage found rest moved).2 notShorter

/-- A round of a repeated step: the passage it starts from, what it finds there, and the passage
behind that. -/
inductive Round (step : Passage → Option (α × Passage)) :
    (passage start : Passage) → (found : α) → (rest : Passage) → Prop
  | first {passage rest : Passage} {found : α} (moved : step passage = some (found, rest)) :
      Round step passage passage found rest
  | later {passage next start rest : Passage} {other found : α}
      (moved : step passage = some (other, next)) (round : Round step next start found rest) :
      Round step passage start found rest

namespace Round

variable {passage start rest : Passage} {found : α}

theorem moves (round : Round step passage start found rest) : step start = some (found, rest) := by
  induction round with
  | first moved => exact moved
  | later _ _ ih => exact ih

theorem leads (advances : Advances step) (round : Round step passage start found rest) :
    Leads passage start := by
  induction round with
  | first => exact .refl _
  | later moved _ ih => exact (advances _ _ _ moved).1.trans ih

end Round

/-- Whatever is found is found in a round. -/
theorem exists_round_of_mem_repeatStep (advances : Advances step) {passage : Passage} {found : α}
    (member : found ∈ (repeatStep step passage).1) :
    ∃ start rest, Round step passage start found rest := by
  fun_induction repeatStep step passage with
  | case1 => cases member
  | case2 passage head rest moved shorter others ih =>
    rcases List.mem_cons.mp member with rfl | later
    · exact ⟨passage, rest, .first moved⟩
    · obtain ⟨start, last, round⟩ := ih later
      exact ⟨start, last, .later moved round⟩
  | case3 passage head rest moved notShorter =>
    exact absurd (advances passage head rest moved).2 notShorter

/-- Whatever is found was found by a step from a later place. -/
theorem exists_of_mem_repeatStep (advances : Advances step) {passage : Passage} {found : α}
    (member : found ∈ (repeatStep step passage).1) :
    ∃ start rest, Leads passage start ∧ step start = some (found, rest) := by
  obtain ⟨start, rest, round⟩ := exists_round_of_mem_repeatStep advances member
  exact ⟨start, rest, round.leads advances, round.moves⟩

end Repeat

/-! ## Closures -/

theorem leads_unlabeledBlock (passage : Passage) : Leads passage passage.unlabeledBlock.2 := by
  unfold unlabeledBlock
  split
  · next inner rest found => exact leads_of_trailingBlock? found
  · exact .refl passage

/-- A closure without a label is the block that follows at once. -/
theorem exists_of_mem_unlabeledBlock {passage : Passage} {block : Block}
    (member : block ∈ passage.unlabeledBlock.1) :
    ∃ inner rest, passage.trailingBlock? = some (inner, rest) ∧ block = ⟨none, inner⟩ := by
  unfold unlabeledBlock at member
  split at member
  · next inner rest found => exact ⟨inner, rest, found, List.mem_singleton.mp member⟩
  · cases member

theorem suffix_of_splitName? {text name rest : List Char}
    (split : splitName? text = some (name, rest)) : rest <:+ text := by
  cases text with
  | nil => cases split
  | cons c text =>
    rw [splitName?] at split
    split at split
    · cases split
      exact (List.dropWhile_suffix isWord).trans (List.suffix_cons c text)
    · cases split

/-- A closure behind its label is the block at its brace. -/
theorem exists_of_labeledBlock? {passage rest : Passage} {block : Block}
    (found : labeledBlock? passage = some (block, rest)) :
    ∃ brace, Leads passage brace ∧ brace.block? '{' '}' = some (block.inner, rest) := by
  unfold labeledBlock? at found
  dsimp only at found
  split at found
  · cases found
  · next label afterLabel named =>
    split at found
    · next value colon =>
      obtain ⟨⟨inner, after⟩, split, same⟩ := Option.map_eq_some_iff.mp found
      cases same
      have toColon : ':' :: value <:+ afterLabel := by
        rw [← colon]
        exact trimStart_suffix afterLabel
      have toValue : trimStart value <:+ passage.skipBlanks.text :=
        (((trimStart_suffix value).trans (List.suffix_cons ':' value)).trans toColon).trans
          (suffix_of_splitName? named)
      exact ⟨_, (leads_skipWhile isAsciiBlank passage).trans (.moveTo toValue), split⟩
    · cases found

theorem advances_labeledBlock? : Advances labeledBlock? := by
  intro passage block rest found
  obtain ⟨brace, toBrace, opened⟩ := exists_of_labeledBlock? found
  have shorter := length_block opened
  have := toBrace.length_le
  exact ⟨toBrace.trans (leads_of_block? opened).1, by omega⟩

theorem leads_blocks (passage : Passage) : Leads passage passage.blocks.2 :=
  (leads_unlabeledBlock passage).trans (leads_repeatStep advances_labeledBlock? _)

/-! ## Modifier chains -/

theorem leads_linkBlock (passage : Passage) : Leads passage passage.linkBlock.2 := by
  unfold linkBlock
  split
  · next inner rest found => exact leads_of_trailingBlock? found
  · exact .refl passage

theorem leads_skipCall (passage : Passage) : Leads passage passage.skipCall := by
  unfold skipCall
  split
  · next inner rest found => exact (leads_of_block? found).1
  · exact .refl passage

theorem leads_of_linkAfterName? {line : Option Nat} {name : String} {passage rest : Passage}
    {link : ChainLink} (found : linkAfterName? line name passage = some (link, rest)) :
    Leads passage rest := by
  unfold linkAfterName? at found
  split at found
  · next inner written =>
    obtain ⟨⟨arguments, behind⟩, split, same⟩ := Option.map_eq_some_iff.mp found
    split at same
    · cases same
      exact (leads_skipCall passage).trans (leads_linkBlock _)
    · cases same
      have toBehind : behind <:+ passage.text := by
        rw [written, ← (append_of_splitFirst? split).1]
        exact ((List.suffix_cons ')' behind).trans (List.suffix_append arguments _)).trans
          (List.suffix_cons '(' _)
      exact (Leads.moveTo toBehind).trans (leads_linkBlock _)
  · split at found
    · cases found
      exact leads_linkBlock passage
    · cases found

/-- A link is taken off at its dot. -/
theorem leads_of_link? {passage rest : Passage} {link : ChainLink}
    (found : link? passage = some (link, rest)) :
    Leads passage rest ∧ rest.length < passage.length := by
  unfold link? at found
  dsimp only at found
  split at found
  · next text dot =>
    split at found
    · cases found
    · have afterName : text.dropWhile isWord <:+ text := List.dropWhile_suffix isWord
      have toName : text.dropWhile isWord <:+ passage.skipBlanks.text := by
        rw [dot]
        exact afterName.trans (List.suffix_cons '.' text)
      have toDot : Leads passage passage.skipBlanks := leads_skipWhile isAsciiBlank passage
      have behind := leads_of_linkAfterName? found
      refine ⟨(toDot.trans (.moveTo toName)).trans behind, ?_⟩
      calc rest.length
        _ ≤ (text.dropWhile isWord).length := behind.length_le
        _ < passage.skipBlanks.length := by
          rw [length, dot, List.length_cons]
          exact Nat.lt_succ_of_le afterName.length_le
        _ ≤ passage.length := toDot.length_le
  · cases found

/-- What stands behind the dot of a link. -/
theorem exists_behind_of_link? {passage rest : Passage} {link : ChainLink}
    (found : link? passage = some (link, rest)) :
    ∃ text, passage.skipBlanks.text = '.' :: text ∧
      ∃ name behind, Leads passage behind ∧
        linkAfterName? passage.skipBlanks.line name behind = some (link, rest) := by
  unfold link? at found
  dsimp only at found
  split at found
  · next text dot =>
    split at found
    · cases found
    · have toName : text.dropWhile isWord <:+ passage.skipBlanks.text := by
        rw [dot]
        exact (List.dropWhile_suffix isWord).trans (List.suffix_cons '.' text)
      exact ⟨text, dot, _, _, (leads_skipWhile isAsciiBlank passage).trans (.moveTo toName), found⟩
  · cases found

/-- A link has the line of its dot. -/
theorem line_of_linkAfterName? {line : Option Nat} {name : String} {passage rest : Passage}
    {link : ChainLink} (found : linkAfterName? line name passage = some (link, rest)) :
    link.outline.line? = line := by
  unfold linkAfterName? at found
  split at found
  · obtain ⟨parts, -, same⟩ := Option.map_eq_some_iff.mp found
    split at same
    · cases same
      rfl
    · cases same
      rfl
  · split at found
    · cases found
      rfl
    · cases found

/-- The closure of a link is the block at its brace. -/
theorem exists_of_linkAfterName? {line place : Option Nat} {name own : String}
    {passage inner rest : Passage} {arguments : List Char}
    (found : linkAfterName? line name passage =
      some (.call place own arguments (some inner), rest)) :
    ∃ brace, Leads passage brace ∧ brace.block? '{' '}' = some (inner, rest) := by
  have ofBlock {later : Passage} (leads : Leads passage later)
      (closure : later.linkBlock = (some inner, rest)) :
      ∃ brace, Leads passage brace ∧ brace.block? '{' '}' = some (inner, rest) := by
    unfold linkBlock at closure
    split at closure
    · next opened =>
      cases closure
      exact ⟨_, leads.trans (leads_skipWhile isInlineBlank later), opened⟩
    · cases closure
  unfold linkAfterName? at found
  split at found
  · next content written =>
    obtain ⟨⟨called, behind⟩, split, same⟩ := Option.map_eq_some_iff.mp found
    dsimp only at same
    split at same
    · cases same
    · obtain ⟨call, after⟩ := Prod.mk.inj same
      have toBehind : behind <:+ passage.text := by
        rw [written, ← (append_of_splitFirst? split).1]
        exact ((List.suffix_cons ')' behind).trans (List.suffix_append called _)).trans
          (List.suffix_cons '(' _)
      exact ofBlock (.moveTo toBehind) (Prod.ext (ChainLink.call.inj call).2.2.2 after)
  · split at found
    · obtain ⟨call, after⟩ := Prod.mk.inj (Option.some.inj found)
      exact ofBlock (.refl passage) (Prod.ext (ChainLink.call.inj call).2.2.2 after)
    · cases found

theorem advances_link? : Advances link? :=
  fun _ _ _ found ↦ leads_of_link? found

/-! ## Expressions and statements -/

theorem append_of_splitIdentifier? {text name rest : List Char}
    (split : splitIdentifier? text = some (name, rest)) : text = name ++ rest := by
  cases text with
  | nil => cases split
  | cons c text =>
    rw [splitIdentifier?] at split
    split at split
    · cases split
      rw [List.cons_append, List.takeWhile_append_dropWhile]
    · cases split

theorem leads_of_callArguments? {passage rest : Passage} {arguments : Option (List Char)}
    (found : passage.callArguments? = some (arguments, rest)) : Leads passage rest := by
  unfold callArguments? at found
  split at found
  · obtain ⟨⟨inner, after⟩, split, same⟩ := Option.map_eq_some_iff.mp found
    cases same
    exact (leads_of_block? split).1
  · cases found
    exact .refl passage

/-- The passage behind the name of an expression and its arguments. -/
def afterArguments? (passage : Passage) : Option Passage := do
  let (_, afterName) ← splitIdentifier? passage.text
  let (_, called) ← (passage.moveTo afterName).callArguments?
  some called

theorem leads_of_afterArguments? {passage called : Passage}
    (behind : passage.afterArguments? = some called) : Leads passage called := by
  simp only [afterArguments?, Option.bind_eq_bind, Option.bind_eq_some_iff] at behind
  obtain ⟨⟨name, afterName⟩, named, ⟨arguments, after⟩, argued, same⟩ := behind
  cases same
  have toName : Leads passage (passage.moveTo afterName) :=
    .moveTo ⟨name, (append_of_splitIdentifier? named).symm⟩
  exact toName.trans (leads_of_callArguments? argued)

theorem isSome_call (scan : Scan) : scan.call.isSome = scan.isCalled := by
  rw [Scan.call]
  cases scan.isCalled with
  | false => rfl
  | true => rfl

/-- A scanned expression has the closures behind its arguments and the links behind those, and ends
behind them. -/
theorem exists_of_scan? {passage rest : Passage} {scan : Scan}
    (found : passage.scan? = some (scan, rest)) :
    ∃ called, passage.afterArguments? = some called ∧ scan.blocks = called.blocks.1 ∧
      scan.links = (repeatStep link? called.blocks.2).1 ∧
      rest = (repeatStep link? called.blocks.2).2 ∧ scan.outline.isView = true := by
  unfold scan? at found
  simp only [Option.bind_eq_bind, Option.bind_eq_some_iff] at found
  obtain ⟨⟨name, afterName⟩, named, ⟨arguments, called⟩, argued, found⟩ := found
  split at found
  · next view =>
    cases found
    refine ⟨called, ?_, rfl, rfl, rfl, ?_⟩
    · simp only [afterArguments?, Option.bind_eq_bind, named, Option.bind_some, argued]
    · rw [outline_eq, Outline.Expression.isView, isSome_call]
      exact view
  · cases found

theorem advances_scan? : Advances scan? := by
  intro passage scan rest found
  obtain ⟨called, behind, -, -, ends, -⟩ := exists_of_scan? found
  have lighter := weight_scan_lt found
  refine ⟨?_, by omega⟩
  rw [ends]
  exact ((leads_of_afterArguments? behind).trans (leads_blocks called)).trans
    (leads_repeatStep advances_link? _)

/-- A statement that is no expression is passed over together with its first character. -/
theorem dropStatement_suffix (depth : Int) (text : List Char) :
    dropStatement depth text <:+ text.tail := by
  induction text generalizing depth with
  | nil => exact List.suffix_rfl
  | cons c text ih =>
    have others (depth : Int) : dropStatement depth text <:+ text :=
      (ih depth).trans (List.tail_suffix text)
    rw [dropStatement, List.tail_cons]
    split
    · exact others _
    · split
      · exact others _
      · split
        · exact List.suffix_rfl
        · exact others _

theorem advances_statement? : Advances statement? := by
  intro passage statement rest found
  unfold statement? at found
  dsimp only at found
  have toStart := leads_skipWhile (fun c ↦ isAsciiBlank c || c == ';') passage
  split at found
  · cases found
  · next nonempty =>
    split at found
    · next scan after scanned =>
      cases found
      obtain ⟨leads, shorter⟩ := advances_scan? _ _ _ scanned
      exact ⟨toStart.trans leads, Nat.lt_of_lt_of_le shorter toStart.length_le⟩
    · cases found
      have dropped := dropStatement_suffix 0
        (passage.skipWhile fun c ↦ isAsciiBlank c || c == ';').text
      refine ⟨toStart.trans (.moveTo (dropped.trans (List.tail_suffix _))), ?_⟩
      refine Nat.lt_of_le_of_lt dropped.length_le (Nat.lt_of_lt_of_le ?_ toStart.length_le)
      rw [List.length_tail]
      exact Nat.sub_one_lt fun empty ↦
        nonempty (List.isEmpty_iff.mpr (List.length_eq_zero_iff.mp empty))

/-- A statement is read apart from those behind it. -/
theorem statementExpressions_cons {passage after : Passage} {statement : ScannedStatement}
    (found : statement? passage = some (statement, after)) :
    passage.statementExpressions = statement.outline :: after.statementExpressions := by
  obtain ⟨-, shorter⟩ := advances_statement? passage statement after found
  rw [statementExpressions, scannedStatements, repeatStep_cons found shorter]
  rfl

theorem statementExpressions_eq_nil {passage : Passage} (stuck : statement? passage = none) :
    passage.statementExpressions = [] := by
  rw [statementExpressions, scannedStatements, repeatStep_eq_nil stuck]
  rfl

/-- Blanks before statements only move their lines. -/
theorem statementExpressions_blanks {blanks : List Char}
    (blank : ∀ c ∈ blanks, isAsciiBlank c = true) (line : Nat) (text : List Char) :
    statementExpressions ⟨some line, blanks ++ text⟩ =
      statementExpressions ⟨some (line + lineFeeds blanks), text⟩ := by
  have same := statement?_blanks blank line text
  cases found : statement? ⟨some (line + lineFeeds blanks), text⟩ with
  | none =>
    rw [statementExpressions_eq_nil found, statementExpressions_eq_nil (same.trans found)]
  | some next =>
    rw [statementExpressions_cons found, statementExpressions_cons (same.trans found)]

/-- A statement starts at a later place, with something that is neither a blank nor a semicolon. -/
theorem exists_of_mem_scannedStatements {passage : Passage} {statement : ScannedStatement}
    (member : statement ∈ passage.scannedStatements) :
    Leads passage statement.start ∧ statement.scan = statement.start.scan?.map Prod.fst ∧
      ∃ c text, statement.start.text = c :: text ∧ isAsciiBlank c = false ∧ c ≠ ';' := by
  obtain ⟨before, rest, leads, found⟩ := exists_of_mem_repeatStep advances_statement? member
  have toStart := leads.trans (leads_skipWhile (fun c ↦ isAsciiBlank c || c == ';') before)
  have visible : ∀ c text, before.text.dropWhile (fun c ↦ isAsciiBlank c || c == ';') = c :: text →
      isAsciiBlank c = false ∧ c ≠ ';' := by
    intro c text written
    have stops := List.head_dropWhile_not (fun c ↦ isAsciiBlank c || c == ';')
      (l := before.text) (by rw [written]; exact List.cons_ne_nil c text)
    simpa only [written, List.head_cons, Bool.or_eq_false_iff, beq_eq_false_iff_ne] using stops
  unfold statement? at found
  dsimp only at found
  split at found
  · cases found
  · next nonempty =>
    obtain ⟨c, text, written⟩ := List.exists_cons_of_ne_nil fun empty ↦
      nonempty (List.isEmpty_iff.mpr empty)
    split at found
    · next scan after scanned =>
      cases found
      exact ⟨toStart, by rw [scanned]; rfl, c, text, written, visible c text written⟩
    · next noScan =>
      cases found
      exact ⟨toStart, by rw [noScan]; rfl, c, text, written, visible c text written⟩

/-! ## Parameters -/

section Parameters

variable {text rest : List Char}

theorem suffix_of_afterNames? (found : afterNames? text = some rest) : rest <:+ text := by
  fun_induction afterNames? text with
  | case1 text names list name after next ih =>
    have toNames : ',' :: names <:+ text := by
      rw [← list]
      exact trimStart_suffix text
    exact (((ih found).trans (suffix_of_splitName? next)).trans (trimStart_suffix names)).trans
      ((List.suffix_cons ',' names).trans toNames)
  | case2 => cases found
  | case3 =>
    cases found
    exact List.suffix_rfl

theorem suffix_of_afterIn? (found : afterIn? text = some rest) : rest <:+ text := by
  unfold afterIn? at found
  split at found
  · next text =>
    have toRest : text <:+ 'i' :: 'n' :: text := List.suffix_append ['i', 'n'] text
    split at found
    · split at found
      · cases found
      · cases found
        exact toRest
    · cases found
      exact toRest
  · cases found

theorem suffix_of_afterBlankIn? (found : afterBlankIn? text = some rest) : rest <:+ text := by
  unfold afterBlankIn? at found
  split at found
  · next c text =>
    split at found
    · exact ((suffix_of_afterIn? found).trans (trimStart_suffix text)).trans
        (List.suffix_cons c text)
    · cases found
  · cases found

theorem suffix_of_afterParameters? (found : afterParameters? text = some rest) : rest <:+ text := by
  unfold afterParameters? at found
  split at found
  · next after closed =>
    have toAfter : ')' :: after <:+ text := by
      rw [← closed]
      exact trimStart_suffix text
    exact (suffix_of_afterBlankIn? found).trans ((List.suffix_cons ')' after).trans toAfter)
  · exact suffix_of_afterBlankIn? found

theorem afterOpening_suffix (text : List Char) : afterOpening text <:+ text := by
  unfold afterOpening
  split
  · next after opened =>
    have toAfter : '(' :: after <:+ text := by
      rw [← opened]
      exact trimStart_suffix text
    exact (trimStart_suffix after).trans ((List.suffix_cons '(' after).trans toAfter)
  · exact trimStart_suffix text

theorem suffix_of_parameter? {name : String} (found : parameter? text = some (name, rest)) :
    rest <:+ text := by
  unfold parameter? at found
  simp only [Option.bind_eq_bind, Option.bind_eq_some_iff] at found
  obtain ⟨⟨first, afterName⟩, named, tail, listed, statements, ended, same⟩ := found
  cases same
  exact (((suffix_of_afterParameters? ended).trans (suffix_of_afterNames? listed)).trans
    (suffix_of_splitName? named)).trans (afterOpening_suffix text)

end Parameters

theorem leads_splitParameter (inner : Passage) : Leads inner inner.splitParameter.2 := by
  unfold splitParameter
  split
  · next name rest found => exact .moveTo (suffix_of_parameter? found)
  · exact .refl inner

/-! ## Bodies -/

theorem leads_expressionStart (body : Passage) : Leads body body.expressionStart := by
  have toStart : Leads body body.skipBlanks := leads_skipWhile isAsciiBlank body
  unfold expressionStart
  dsimp only
  split
  · next c rest word =>
    split
    · exact toStart.trans (.moveTo (suffix_of_dropStart? word))
    · exact toStart
  · exact toStart

theorem suffix_of_findBodyMarker? {insideWord : Bool} {text rest : List Char}
    (found : findBodyMarker? insideWord text = some rest) : rest <:+ text := by
  fun_induction findBodyMarker? insideWord text with
  | case1 => cases found
  | case2 insideWord c text marked isMarker =>
    cases found
    split at isMarker
    · cases isMarker
    · exact suffix_of_bodyMarker? isMarker
  | case3 insideWord c text noMarker ih => exact (ih found).trans (List.suffix_cons c text)

end ViewPreview.Passage
