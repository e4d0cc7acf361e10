import ViewPreview.Proofs.Passage.Bytes

/-!
# Scanning From a Cursor

Each reader at a cursor between two characters finds what is found in the passage from there on, and
leaves the cursor between two characters.  Nothing that is checked on the way fails.
-/

namespace ViewPreview.Passage

open ViewPreview.Text ViewPreview.Call ViewPreview.Outline

namespace Cursor

/-! ## Closures -/

section Readers

variable {whole passage : Passage} {cursor : Nat}

theorem skipBlanks_eq (place : At whole cursor passage) :
    skip asciiBlanks whole cursor = cursor + passage.distance passage.skipBlanks :=
  skip_eq place (by decide) contains_asciiBlanks

theorem skipInlineBlanks_eq (place : At whole cursor passage) :
    skip [' ', '\t'] whole cursor = cursor + passage.distance passage.skipInlineBlanks := by
  refine skip_eq place (by decide) fun c ↦ ?_
  simp [isInlineBlank, beq_eq_decide]

theorem braces_eq (place : At whole cursor passage) :
    block '{' '}' whole cursor = .ok (reached cursor passage (passage.block? '{' '}')) :=
  block_eq place (by decide) (by decide) (by decide)

theorem parentheses_eq (place : At whole cursor passage) :
    block '(' ')' whole cursor = .ok (reached cursor passage (passage.block? '(' ')')) :=
  block_eq place (by decide) (by decide) (by decide)

/-- What is found at a later place is reached from an earlier one by way of it. -/
theorem reached_of_leads {α : Type} {middle : Passage} {found : Option (α × Passage)}
    (leads : Leads passage middle) (behind : ∀ parts, found = some parts → Leads middle parts.2) :
    reached (cursor + passage.distance middle) middle found = reached cursor passage found := by
  cases found with
  | none => rfl
  | some parts =>
    simp only [reached, Option.map_some]
    rw [distance_trans leads (behind parts rfl), Nat.add_assoc]

theorem trailingBlock_eq (place : At whole cursor passage) :
    trailingBlock whole cursor = .ok (reached cursor passage passage.trailingBlock?) := by
  have toBlock : Leads passage passage.skipInlineBlanks := leads_skipWhile isInlineBlank passage
  rw [trailingBlock, skipInlineBlanks_eq place, braces_eq (place.further toBlock),
    reached_of_leads toBlock fun parts found ↦ (leads_of_block? found).1]
  rfl

theorem unlabeledBlock_eq (place : At whole cursor passage) :
    unlabeledBlock whole cursor =
      .ok (passage.unlabeledBlock.1, cursor + passage.distance passage.unlabeledBlock.2) := by
  rw [unlabeledBlock, trailingBlock_eq place, ok_bind, Passage.unlabeledBlock]
  cases passage.trailingBlock? with
  | none => simp only [reached, Option.map_none, distance_self, Nat.add_zero]
  | some parts => rfl

theorem linkBlock_eq (place : At whole cursor passage) :
    linkBlock whole cursor =
      .ok (passage.linkBlock.1, cursor + passage.distance passage.linkBlock.2) := by
  rw [linkBlock, trailingBlock_eq place, ok_bind, Passage.linkBlock]
  cases passage.trailingBlock? with
  | none => simp only [reached, Option.map_none, distance_self, Nat.add_zero]
  | some parts => rfl

theorem skipCall_eq (place : At whole cursor passage) :
    skipCall whole cursor = .ok (cursor + passage.distance passage.skipCall) := by
  rw [skipCall, parentheses_eq place, ok_bind, Passage.skipCall]
  cases passage.block? '(' ')' with
  | none => simp only [reached, Option.map_none, distance_self, Nat.add_zero]
  | some parts => rfl

/-- A labeled closure is the block behind its label, its colon and blanks. -/
theorem labeledBlock?_eq (passage : Passage) :
    passage.labeledBlock? =
      (openedLabel? passage.skipBlanks.text).bind fun opened ↦
        ((passage.skipBlanks.moveTo ('{' :: opened.2)).block? '{' '}').map fun parts ↦
          (⟨some (String.ofList opened.1), parts.1⟩, parts.2) := by
  unfold labeledBlock?
  dsimp only
  rw [openedLabel?]
  cases splitName? passage.skipBlanks.text with
  | none => rfl
  | some parts =>
    obtain ⟨label, rest⟩ := parts
    simp only [Option.bind_eq_bind, Option.bind_some]
    split
    · next value colon =>
      have marked : afterMark? ':' rest = some (trimStart value) := by
        rw [afterMark?, colon]
        exact if_pos rfl
      rw [marked, Option.bind_some]
      cases opens : dropStart? ['{'] (trimStart value) with
      | none =>
        rw [block?_eq_none]
        · rfl
        · intro brace
          obtain ⟨inner, written⟩ := List.head?_eq_some_iff.mp brace
          exact Option.some_ne_none inner ((dropStart?_singleton.mpr written).symm.trans opens)
      | some inner =>
        rw [dropStart?_singleton.mp opens]
        rfl
    · next noColon =>
      have unmarked : afterMark? ':' rest = none := by
        rw [afterMark?]
        split
        · next c value written =>
          refine if_neg ?_
          rintro rfl
          exact noColon value written
        · rfl
      rw [unmarked]
      rfl

/-- The match of a label ends behind the brace, one byte after the block that is read. -/
theorem exists_of_openedLabel? {text label inner : List Char}
    (opened : openedLabel? text = some (label, inner)) : '{' :: inner <:+ text := by
  simp only [openedLabel?, Option.bind_eq_bind, Option.bind_eq_some_iff] at opened
  obtain ⟨⟨name, rest⟩, named, value, marked, inner', brace, same⟩ := opened
  cases same
  rw [dropStart?_singleton] at brace
  rw [← brace]
  exact (suffix_of_afterMark? marked).trans (suffix_of_splitName? named)

theorem labeledBlock_eq (place : At whole cursor passage) :
    labeledBlock whole cursor = .ok (reached cursor passage passage.labeledBlock?) := by
  have toStart : Leads passage passage.skipBlanks := leads_skipWhile isAsciiBlank passage
  have startPlace := place.further toStart
  rw [labeledBlock, skipBlanks_eq place]
  simp only [startPlace.textFrom_eq, ok_bind]
  rw [labeledBlock?_eq]
  cases opened : openedLabel? passage.skipBlanks.text with
  | none => rfl
  | some parts =>
    obtain ⟨label, inner⟩ := parts
    obtain ⟨front, whole_⟩ := exists_of_openedLabel? opened
    have toBrace : Leads passage.skipBlanks (passage.skipBlanks.moveTo ('{' :: inner)) :=
      .moveTo ⟨front, whole_⟩
    have count : matchLength passage.skipBlanks.text inner = utf8Length front + 1 := by
      rw [← whole_, List.append_cons, matchLength_append, utf8Length_append]
      rfl
    have far : passage.skipBlanks.distance (passage.skipBlanks.moveTo ('{' :: inner)) =
        utf8Length front := distance_moveTo whole_.symm
    have moved := startPlace.advance_eq toBrace
    rw [far] at moved
    have bracePlace := startPlace.further toBrace
    rw [far] at bracePlace
    simp only [count, subtract_eq (Nat.le_add_left 1 _), Nat.add_sub_cancel, ok_bind, moved,
      braces_eq bracePlace, Option.bind_some]
    rw [← far, reached_of_leads toBrace fun parts found ↦ (leads_of_block? found).1,
      reached_of_leads toStart fun parts found ↦ toBrace.trans (leads_of_block? found).1]
    cases (passage.skipBlanks.moveTo ('{' :: inner)).block? '{' '}' <;> rfl

theorem blocks_eq (place : At whole cursor passage) :
    blocks whole cursor =
      .ok (passage.blocks.1, cursor + passage.distance passage.blocks.2) := by
  have toFirst := leads_unlabeledBlock passage
  have toLast := leads_repeatStep advances_labeledBlock? passage.unlabeledBlock.2
  have rounds := repeatRounds_eq advances_labeledBlock? (fun _ _ there ↦ labeledBlock_eq there)
    (place.further toFirst)
  rw [blocks, unlabeledBlock_eq place]
  simp only [ok_bind]
  rw [rounds, Nat.add_assoc, ← distance_trans toFirst toLast]
  rfl

/-! ## Modifier chains -/

theorem linkAfterName_eq (place : At whole cursor passage) (line : Option Nat) (name : String) :
    linkAfterName whole line name cursor passage.text =
      .ok (reached cursor passage (linkAfterName? line name passage)) := by
  unfold linkAfterName?
  split
  · next inner written =>
    rw [linkAfterName, dropStart?_singleton.mpr written]
    dsimp only
    cases split : splitFirst? ')' inner with
    | none => rfl
    | some parts =>
      obtain ⟨arguments, behind⟩ := parts
      simp only [Option.map_some]
      split
      · have toCall := leads_skipCall passage
        have toNext := leads_linkBlock passage.skipCall
        simp only [skipCall_eq place, ok_bind, linkBlock_eq (place.further toCall), reached,
          Option.map_some, distance_trans toCall toNext, Nat.add_assoc]
      · have shape : passage.text = ('(' :: arguments ++ [')']) ++ behind := by
          rw [written, ← (append_of_splitFirst? split).1]
          simp
        have toCall : Leads passage (passage.moveTo behind) := .moveTo ⟨_, shape.symm⟩
        have toNext := leads_linkBlock (passage.moveTo behind)
        have far : passage.distance (passage.moveTo behind) = utf8Length arguments + 2 := by
          have parentheses : '('.utf8Size = 1 ∧ ')'.utf8Size = 1 := by decide
          rw [distance_moveTo shape, utf8Length_append, utf8Length_cons, utf8Length_cons,
            utf8Length_nil, parentheses.1, parentheses.2]
          omega
        have moved := place.advance_eq toCall
        have there := place.further toCall
        rw [far] at moved there
        simp only [moved, ok_bind, linkBlock_eq there, reached, Option.map_some,
          distance_trans toCall toNext, far, Nat.add_assoc]
  · next noCall =>
    rw [linkAfterName, dropStart?_singleton_eq_none noCall]
    dsimp only
    split
    · simp only [linkBlock_eq place, ok_bind, reached, Option.map_some]
    · rfl

theorem link_eq (place : At whole cursor passage) :
    link whole cursor = .ok (reached cursor passage (link? passage)) := by
  have toDot : Leads passage passage.skipBlanks := leads_skipWhile isAsciiBlank passage
  have dotPlace := place.further toDot
  rw [link, skipBlanks_eq place, link?]
  simp only [dotPlace.passageFrom_eq, ok_bind]
  split
  · next text dot =>
    have shape : passage.skipBlanks.text =
        ('.' :: text.takeWhile isWord) ++ text.dropWhile isWord := by
      rw [dropStart?_singleton.mp dot, List.cons_append, List.takeWhile_append_dropWhile]
    simp only [dropStart?_singleton.mp dot]
    split
    · rfl
    · have toName : Leads passage.skipBlanks (passage.skipBlanks.moveTo (text.dropWhile isWord)) :=
        .moveTo ⟨_, shape.symm⟩
      have far : passage.skipBlanks.distance (passage.skipBlanks.moveTo (text.dropWhile isWord)) =
          1 + utf8Length (text.takeWhile isWord) := by
        rw [distance_moveTo shape]
        rfl
      have moved := dotPlace.advance_eq toName
      have namePlace := dotPlace.further toName
      rw [far] at moved namePlace
      have read := linkAfterName_eq namePlace passage.skipBlanks.line
        (String.ofList (text.takeWhile isWord))
      rw [text_moveTo] at read
      rw [moved, ok_bind, read, ← far,
        reached_of_leads toName fun parts found ↦ leads_of_linkAfterName? found,
        reached_of_leads toDot fun parts found ↦
          toName.trans (leads_of_linkAfterName? found)]
  · next noDot =>
    split
    · next text dot =>
      rw [dropStart?_singleton.mpr dot] at noDot
      cases noDot
    · rfl

/-! ## Expressions and statements -/

theorem callArguments_eq (place : At whole cursor passage) :
    callArguments whole cursor = .ok (passage.callArguments?.map fun parts ↦
      (parts.1, cursor + passage.distance parts.2)) := by
  have head := head?_bytes_eq_iff (a := '(') (by decide) passage.text
  rw [callArguments, place.bytesFrom_eq, callArguments?]
  split
  · next found =>
    obtain ⟨text, written⟩ := List.head?_eq_some_iff.mp (head.mp found)
    simp only [written]
    rw [parentheses_eq place, ok_bind]
    cases passage.block? '(' ')' <;> rfl
  · next noParenthesis =>
    split
    · next text written =>
      refine absurd (head.mpr ?_) noParenthesis
      rw [written]
      rfl
    · rw [Option.map_some, distance_self, Nat.add_zero]

theorem scan_eq (place : At whole cursor passage) :
    scan whole cursor = .ok (reached cursor passage passage.scan?) := by
  rw [scan, place.textFrom_eq, ok_bind, scan?]
  cases named : splitIdentifier? passage.text with
  | none => rfl
  | some parts =>
    obtain ⟨name, afterName⟩ := parts
    have shape := append_of_splitIdentifier? named
    have toName : Leads passage (passage.moveTo afterName) := .moveTo ⟨name, shape.symm⟩
    have moved := place.advance_eq toName
    have namePlace := place.further toName
    rw [distance_moveTo shape] at moved namePlace
    simp only [moved, ok_bind, callArguments_eq namePlace, Option.bind_eq_bind, Option.bind_some]
    cases argued : (passage.moveTo afterName).callArguments? with
    | none => rfl
    | some parts =>
      obtain ⟨arguments, afterArguments⟩ := parts
      have toArguments := leads_of_callArguments? argued
      have argumentsPlace := namePlace.further toArguments
      have toBlocks := leads_blocks afterArguments
      have blocksPlace := argumentsPlace.further toBlocks
      have rounds := repeatRounds_eq advances_link? (fun _ _ there ↦ link_eq there) blocksPlace
      have toLast := leads_repeatStep advances_link? afterArguments.blocks.2
      simp only [Option.map_some, ok_bind, blocks_eq argumentsPlace, Option.bind_some]
      split
      · rw [rounds]
        simp only [ok_bind, reached, Option.map_some]
        rw [distance_trans toName (toArguments.trans (toBlocks.trans toLast)),
          distance_trans toArguments (toBlocks.trans toLast), distance_trans toBlocks toLast,
          distance_moveTo shape]
        simp only [Nat.add_assoc]
      · rfl

theorem statement_eq (place : At whole cursor passage) :
    statement whole cursor = .ok (reached cursor passage passage.statement?) := by
  have toStart : Leads passage (passage.skipWhile fun c ↦ isAsciiBlank c || c == ';') :=
    leads_skipWhile _ passage
  have startPlace := place.further toStart
  have skipped : skip (';' :: asciiBlanks) whole cursor =
      cursor + passage.distance (passage.skipWhile fun c ↦ isAsciiBlank c || c == ';') := by
    refine skip_eq place (by decide) fun c ↦ ?_
    rw [List.contains_cons, contains_asciiBlanks, Bool.or_comm]
  simp only [statement, skipped, statement?, startPlace.size_le_iff, List.isEmpty_iff]
  split
  · rfl
  · simp only [startPlace.passageFrom_eq, ok_bind, scan_eq startPlace]
    cases scanned : (passage.skipWhile fun c ↦ isAsciiBlank c || c == ';').scan? with
    | some parts =>
      obtain ⟨scan, rest⟩ := parts
      have toRest := (advances_scan? _ scan rest scanned).1
      simp only [reached, Option.map_some, distance_trans toStart toRest, Nat.add_assoc]
    | none =>
      have toRest : Leads (passage.skipWhile fun c ↦ isAsciiBlank c || c == ';')
          ((passage.skipWhile fun c ↦ isAsciiBlank c || c == ';').moveTo (dropStatement 0
            (passage.skipWhile fun c ↦ isAsciiBlank c || c == ';').text)) :=
        .moveTo ((dropStatement_suffix 0 _).trans (List.tail_suffix _))
      simp only [reached, Option.map_some, Option.map_none, startPlace.bytesFrom_eq,
        statementEnd_bytes, distance_trans toStart toRest, Nat.add_assoc]
      rfl

theorem statements_eq (whole : Passage) : statements whole = .ok whole.scannedStatements := by
  rw [statements, repeatRounds_eq advances_statement? (fun _ _ there ↦ statement_eq there)
    (At.start whole)]
  rfl

end Readers

end Cursor

end ViewPreview.Passage
