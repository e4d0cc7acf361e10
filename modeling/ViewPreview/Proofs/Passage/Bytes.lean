import ViewPreview.Proofs.Passage.Cursor
import ViewPreview.Proofs.Passage.Progress

/-!
# Places Between Characters

A cursor between two characters stands for the passage from there on.  Runs, blocks and statements
end among the bytes from such a cursor on where they end among the characters, as no byte of a longer
character is one of an ASCII character.  A loop whose steps leave less text leaves its cursor between
two characters.
-/

namespace ViewPreview.Passage

open ViewPreview.Text ViewPreview.Call ViewPreview.Outline

/-! ## Distances -/

/-- The number of bytes between the start of a passage and that of a later one. -/
def distance (passage rest : Passage) : Nat :=
  utf8Length passage.text - utf8Length rest.text

section Distance

variable {passage middle rest : Passage}

theorem Leads.distance_add (leads : Leads passage rest) :
    passage.distance rest + utf8Length rest.text = utf8Length passage.text := by
  have := utf8Length_le_of_isInfix leads.suffix.isInfix
  unfold distance
  omega

theorem distance_trans (first : Leads passage middle) (second : Leads middle rest) :
    passage.distance rest = passage.distance middle + middle.distance rest := by
  have := first.distance_add
  have := second.distance_add
  have := (first.trans second).distance_add
  omega

theorem distance_self (passage : Passage) : passage.distance passage = 0 :=
  Nat.sub_self _

theorem distance_moveTo {front text : List Char} (whole : passage.text = front ++ text) :
    passage.distance (passage.moveTo text) = utf8Length front := by
  rw [distance, whole, utf8Length_append, text_moveTo, Nat.add_sub_cancel]

/-- A passage that leaves less text is some bytes further on. -/
theorem Leads.distance_pos (leads : Leads passage rest) (shorter : rest.length < passage.length) :
    0 < passage.distance rest := by
  obtain ⟨passed, whole⟩ := leads.suffix
  have lengths := congrArg List.length whole
  rw [List.length_append] at lengths
  have bound := length_le_utf8Length passed
  unfold distance length at *
  rw [← whole, utf8Length_append]
  omega

end Distance

namespace Cursor

@[simp] theorem ok_bind {α β : Type} (value : α) (next : α → Checked β) :
    (Except.ok value >>= next) = next value :=
  rfl

@[simp] theorem map_ok {α β : Type} (function : α → β) (value : α) :
    Except.map function (Except.ok value : Checked α) = .ok (function value) :=
  rfl

theorem subtract_eq {number smaller : Nat} (bound : smaller ≤ number) :
    subtract number smaller = .ok (number - smaller) :=
  if_pos bound

/-! ## Places between characters -/

theorem textFrom_append (before rest : List Char) :
    textFrom (before ++ rest) (utf8Length before) = .ok rest := by
  induction before with
  | nil =>
    rw [List.nil_append, utf8Length_nil]
    cases rest with
    | nil => rfl
    | cons c rest => rfl
  | cons c before ih =>
    obtain ⟨size, eq⟩ := Nat.exists_eq_add_one.mpr c.utf8Size_pos
    rw [List.cons_append, utf8Length_cons, eq, Nat.add_right_comm, textFrom, if_pos (by omega)]
    rw [eq, Nat.add_right_comm, Nat.add_sub_cancel_left]
    exact ih

/-- A place inside a character is noticed. -/
example : textFrom ['é', '.'] 1 = .error .insideCharacter := by decide

theorem textTo_append (front rest : List Char) :
    textTo (front ++ rest) (utf8Length front) = .ok front := by
  induction front with
  | nil =>
    rw [List.nil_append, utf8Length_nil]
    cases rest with
    | nil => rfl
    | cons c rest => rfl
  | cons c front ih =>
    obtain ⟨size, eq⟩ := Nat.exists_eq_add_one.mpr c.utf8Size_pos
    rw [List.cons_append, utf8Length_cons, eq, Nat.add_right_comm, textTo, if_pos (by omega)]
    rw [eq, Nat.add_right_comm, Nat.add_sub_cancel_left, ih]
    rfl

theorem matchLength_append (front rest : List Char) :
    matchLength (front ++ rest) rest = utf8Length front := by
  rw [matchLength, List.length_append, Nat.add_sub_cancel, List.take_left]

/-- Whether a cursor stands between two characters of a text, at the start of a passage. -/
structure At (whole : Passage) (cursor : Nat) (passage : Passage) : Prop where
  leads : Leads whole passage
  count : cursor + utf8Length passage.text = utf8Length whole.text

namespace At

variable {whole passage rest : Passage} {cursor : Nat}

theorem start (whole : Passage) : At whole 0 whole where
  leads := .refl whole
  count := Nat.zero_add _

theorem further (place : At whole cursor passage) (leads : Leads passage rest) :
    At whole (cursor + passage.distance rest) rest where
  leads := place.leads.trans leads
  count := by
    have := leads.distance_add
    have := place.count
    omega

theorem exists_before (place : At whole cursor passage) :
    ∃ before, whole.text = before ++ passage.text ∧ cursor = utf8Length before := by
  obtain ⟨before, text⟩ := place.leads.suffix
  refine ⟨before, text.symm, ?_⟩
  have count := place.count
  rw [← text, utf8Length_append] at count
  omega

/-- A cursor is at the end of its text when nothing is left. -/
theorem size_le_iff (place : At whole cursor passage) :
    utf8Length whole.text ≤ cursor ↔ passage.text = [] := by
  rw [← List.length_eq_zero_iff]
  have count := place.count
  constructor
  · intro atEnd
    have := length_le_utf8Length passage.text
    omega
  · intro empty
    rw [List.length_eq_zero_iff.mp empty, utf8Length_nil] at count
    omega

theorem isPlace (place : At whole cursor passage) : IsPlace whole.text cursor := by
  obtain ⟨before, text, cursor⟩ := place.exists_before
  exact ⟨before, passage.text, text, cursor⟩

/-- The place behind the front of a text, where the rest begins. -/
theorem of_append {before rest : List Char} (text : whole.text = before ++ rest) :
    At whole (utf8Length before) (whole.moveTo rest) := by
  have place := (At.start whole).further (.moveTo ⟨before, text.symm⟩)
  rwa [Nat.zero_add, distance_moveTo text] at place

theorem exists_of_isPlace (isPlace : IsPlace whole.text cursor) :
    ∃ passage, At whole cursor passage := by
  obtain ⟨before, rest, text, rfl⟩ := isPlace
  exact ⟨_, .of_append text⟩

theorem textFrom_eq (place : At whole cursor passage) :
    textFrom whole.text cursor = .ok passage.text := by
  obtain ⟨before, text, rfl⟩ := place.exists_before
  rw [text]
  exact textFrom_append before passage.text

theorem passageFrom_eq (place : At whole cursor passage) :
    passageFrom whole cursor = .ok passage := by
  rw [passageFrom, place.textFrom_eq, map_ok, ← place.leads.placed]

theorem bytesFrom_eq (place : At whole cursor passage) :
    bytesFrom whole cursor = bytes passage.text := by
  obtain ⟨before, text, rfl⟩ := place.exists_before
  rw [bytesFrom, text]
  exact drop_bytes before passage.text

theorem advance_eq (place : At whole cursor passage) (leads : Leads passage rest) :
    advance whole cursor (passage.distance rest) = .ok (cursor + passage.distance rest) := by
  have := (place.further leads).count
  exact if_pos (by omega)

end At

/-- What is found in a passage, as it is found at a cursor that stands at its start. -/
def reached {α : Type} (cursor : Nat) (passage : Passage) (found : Option (α × Passage)) :
    Option (α × Nat) :=
  found.map fun parts ↦ (parts.1, cursor + passage.distance parts.2)

/-! ## Runs of bytes -/

/-- Bytes of which none is that of an ASCII character stand for a character that is another one. -/
theorem ne_of_mem_utf8EncodeChar {a c : Char} {byte : UInt8} (ascii : a.utf8Size = 1)
    (different : c ≠ a) (member : byte ∈ String.utf8EncodeChar c) : byte ≠ a.toUInt8 := by
  rintro rfl
  exact different (eq_of_mem_utf8EncodeChar ascii member)

theorem head?_bytes_eq_iff {a : Char} (ascii : a.utf8Size = 1) (text : List Char) :
    (bytes text).head? = some a.toUInt8 ↔ text.head? = some a := by
  cases text with
  | nil => simp
  | cons c text =>
    by_cases same : c = a
    · rw [same, bytes_cons_of_utf8Size ascii]
      simp
    · obtain ⟨first, others, encoded⟩ :=
        List.exists_cons_of_length_pos (l := String.utf8EncodeChar c)
          (by rw [String.length_utf8EncodeChar]; exact c.utf8Size_pos)
      have other : first ≠ a.toUInt8 :=
        ne_of_mem_utf8EncodeChar ascii same (by rw [encoded]; exact List.mem_cons_self)
      rw [bytes_cons, encoded]
      simp [same, other]

theorem runEnd_bytes {run : List Char} (ascii : ∀ a ∈ run, a.utf8Size = 1) (cursor : Nat)
    (text : List Char) :
    runEnd run cursor (bytes text) =
      cursor + (utf8Length text - utf8Length (text.dropWhile run.contains)) := by
  induction text generalizing cursor with
  | nil => rfl
  | cons c text ih =>
    by_cases inRun : c ∈ run
    · have single := ascii c inRun
      have found : (run.any fun a ↦ a.toUInt8 == c.toUInt8) = true :=
        List.any_eq_true.mpr ⟨c, inRun, beq_self_eq_true _⟩
      have shorter := utf8Length_le_of_isInfix
        (List.dropWhile_suffix (l := text) run.contains).isInfix
      rw [bytes_cons_of_utf8Size single, runEnd, if_pos found, ih,
        List.dropWhile_cons_of_pos (List.contains_iff_mem.mpr inRun), utf8Length_cons, single]
      omega
    · obtain ⟨first, others, encoded⟩ :=
        List.exists_cons_of_length_pos (l := String.utf8EncodeChar c)
          (by rw [String.length_utf8EncodeChar]; exact c.utf8Size_pos)
      have absent : ¬(run.any fun a ↦ a.toUInt8 == first) = true := by
        intro found
        obtain ⟨a, member, same⟩ := List.any_eq_true.mp found
        have inside : first ∈ String.utf8EncodeChar c := by
          rw [encoded]
          exact List.mem_cons_self
        refine ne_of_mem_utf8EncodeChar (ascii a member) ?_ inside (beq_iff_eq.mp same).symm
        rintro rfl
        exact inRun member
      have stops : ¬run.contains c = true := fun member ↦ inRun (List.contains_iff_mem.mp member)
      rw [bytes_cons, encoded, List.cons_append, runEnd, if_neg absent,
        List.dropWhile_cons_of_neg stops, Nat.sub_self, Nat.add_zero]

section Readers

variable {whole passage : Passage} {cursor : Nat}

theorem skip_eq (place : At whole cursor passage) {run : List Char} {condition : Char → Bool}
    (ascii : run.all (·.utf8Size == 1) = true) (same : ∀ c, run.contains c = condition c) :
    skip run whole cursor = cursor + passage.distance (passage.skipWhile condition) := by
  have sameCondition : run.contains = condition := funext same
  have single : ∀ a ∈ run, a.utf8Size = 1 := fun a member ↦
    beq_iff_eq.mp (List.all_eq_true.mp ascii a member)
  rw [skip, place.bytesFrom_eq, runEnd_bytes single, sameCondition]
  rfl

theorem contains_asciiBlanks (c : Char) : asciiBlanks.contains c = isAsciiBlank c := by
  simp [asciiBlanks, isAsciiBlank, Bool.or_assoc, beq_eq_decide]

end Readers

/-! ## Blocks -/

theorem closingPlace?_append {opening closing : UInt8} {front : List UInt8}
    (plain : ∀ byte ∈ front, byte ≠ opening ∧ byte ≠ closing) (depth cursor : Nat)
    (rest : List UInt8) :
    closingPlace? opening closing depth cursor (front ++ rest) =
      closingPlace? opening closing depth (cursor + front.length) rest := by
  induction front generalizing cursor with
  | nil => rfl
  | cons byte front ih =>
    obtain ⟨⟨noOpening, noClosing⟩, others⟩ := List.forall_mem_cons.mp plain
    rw [List.cons_append, closingPlace?, if_neg noOpening, if_neg noClosing, ih others,
      List.length_cons, Nat.add_assoc, Nat.add_comm 1]

/-- Counting brackets among bytes finds the bracket that is found among characters.  The count never
gets below zero. -/
theorem closingPlace?_bytes {opening closing : Char} (asciiOpening : opening.utf8Size = 1)
    (asciiClosing : closing.utf8Size = 1) (distinct : closing.toUInt8 ≠ opening.toUInt8)
    (depth cursor : Nat) (text : List Char) :
    closingPlace? opening.toUInt8 closing.toUInt8 (depth + 1) cursor (bytes text) =
      .ok ((splitClosing? opening closing depth text).map fun parts ↦
        cursor + utf8Length parts.1) := by
  fun_induction splitClosing? opening closing depth text generalizing cursor with
  | case1 => rfl
  | case2 depth text ih =>
    rw [bytes_cons_of_utf8Size asciiOpening, closingPlace?, if_pos rfl, ih, Option.map_map]
    congr 2
    funext parts
    simp only [Function.comp_apply, Prod.map_fst, utf8Length_cons, asciiOpening]
    omega
  | case3 text notOpening =>
    rw [bytes_cons_of_utf8Size asciiClosing, closingPlace?, if_neg distinct, if_pos rfl,
      subtract_eq (Nat.le_refl 1)]
    simp
  | case4 text depth notOpening ih =>
    rw [bytes_cons_of_utf8Size asciiClosing, closingPlace?, if_neg distinct, if_pos rfl,
      subtract_eq (by omega), ok_bind, Nat.add_sub_cancel, if_neg (Nat.succ_ne_zero depth), ih,
      Option.map_map]
    congr 2
    funext parts
    simp only [Function.comp_apply, Prod.map_fst, utf8Length_cons, asciiClosing]
    omega
  | case5 depth c text notOpening notClosing ih =>
    have plain : ∀ byte ∈ String.utf8EncodeChar c,
        byte ≠ opening.toUInt8 ∧ byte ≠ closing.toUInt8 := fun byte member ↦
      ⟨ne_of_mem_utf8EncodeChar asciiOpening notOpening member,
        ne_of_mem_utf8EncodeChar asciiClosing notClosing member⟩
    rw [bytes_cons, closingPlace?_append plain, ih, String.length_utf8EncodeChar, Option.map_map]
    congr 2
    funext parts
    simp only [Function.comp_apply, Prod.map_fst, utf8Length_cons]
    omega

theorem block?_of_cons {passage : Passage} {opening closing : Char} {text : List Char}
    (written : passage.text = opening :: text) :
    passage.block? opening closing = (splitClosing? opening closing 0 text).map fun parts ↦
      (⟨(passage.moveTo text).line, parts.1⟩, passage.moveTo parts.2) := by
  rw [block?, written]
  exact if_pos rfl

section Readers

variable {whole passage : Passage} {cursor : Nat}

/-- The bytes between two brackets are the text between them, and the cursor moves behind both. -/
theorem block_of_splitClosing? (place : At whole cursor passage) {opening closing : Char}
    (asciiOpening : opening.utf8Size = 1) (asciiClosing : closing.utf8Size = 1)
    {text inner rest : List Char} (written : passage.text = opening :: text)
    (split : splitClosing? opening closing 0 text = some (inner, rest)) :
    slice whole.text (cursor + 1) (cursor + 1 + utf8Length inner) = .ok inner ∧
      passageFrom whole (cursor + 1) = .ok (passage.moveTo text) ∧
        advance whole cursor (utf8Length inner + 2) =
          .ok (cursor + passage.distance (passage.moveTo rest)) := by
  have shape := append_of_splitClosing? split
  have whole_ : passage.text = (opening :: inner ++ [closing]) ++ rest := by
    rw [written, shape]
    simp
  have behindOpening : passage.text = [opening] ++ text := written
  have startPlace := place.further (.moveTo ⟨[opening], behindOpening.symm⟩)
  rw [distance_moveTo behindOpening, utf8Length_cons, utf8Length_nil, asciiOpening] at startPlace
  have moved := place.advance_eq (.moveTo ⟨_, whole_.symm⟩)
  have far : passage.distance (passage.moveTo rest) = utf8Length inner + 2 := by
    rw [distance_moveTo whole_, utf8Length_append, utf8Length_cons, utf8Length_cons, asciiOpening,
      asciiClosing, utf8Length_nil]
    omega
  refine ⟨?_, startPlace.passageFrom_eq, far ▸ moved⟩
  rw [slice, startPlace.textFrom_eq, ok_bind, subtract_eq (Nat.le_add_right _ _), ok_bind,
    Nat.add_sub_cancel_left, text_moveTo, shape]
  exact textTo_append inner (closing :: rest)

/-- A block is found among bytes as it is found among characters. -/
theorem block_eq (place : At whole cursor passage) {opening closing : Char}
    (asciiOpening : opening.utf8Size = 1) (asciiClosing : closing.utf8Size = 1)
    (distinct : closing.toUInt8 ≠ opening.toUInt8) :
    block opening closing whole cursor =
      .ok (reached cursor passage (passage.block? opening closing)) := by
  have head := head?_bytes_eq_iff asciiOpening passage.text
  rw [block, place.bytesFrom_eq]
  by_cases opens : passage.text.head? = some opening
  · obtain ⟨text, written⟩ := List.head?_eq_some_iff.mp opens
    rw [if_pos (head.mpr opens), block?_of_cons written, written,
      bytes_cons_of_utf8Size asciiOpening, closingPlace?, if_pos rfl,
      closingPlace?_bytes asciiOpening asciiClosing distinct, ok_bind]
    cases split : splitClosing? opening closing 0 text with
    | none => rfl
    | some parts =>
      obtain ⟨between, start, moved⟩ :=
        block_of_splitClosing? place asciiOpening asciiClosing written split
      simp only [Option.map_some, between, ok_bind, start, moved, reached]
  · rw [if_neg fun found ↦ opens (head.mp found), block?_eq_none opens]
    rfl

end Readers

/-! ## Ends of statements -/

/-- The brackets that are counted in a statement that is skipped, and the line feed that ends it. -/
def statementMarks : List Char :=
  ['{', '(', '[', '}', ')', ']', '\n']

theorem utf8Size_of_mem_statementMarks {c : Char} (mark : c ∈ statementMarks) : c.utf8Size = 1 := by
  have all : statementMarks.all (·.utf8Size == 1) = true := by decide
  exact beq_iff_eq.mp (List.all_eq_true.mp all c mark)

theorem statementEnd_append {front : List UInt8}
    (plain : ∀ byte ∈ front, ∀ mark ∈ statementMarks, byte ≠ mark.toUInt8) (depth : Int)
    (cursor : Nat) (rest : List UInt8) :
    statementEnd depth cursor (front ++ rest) =
      statementEnd depth (cursor + front.length) rest := by
  induction front generalizing cursor with
  | nil => rfl
  | cons byte front ih =>
    obtain ⟨first, others⟩ := List.forall_mem_cons.mp plain
    simp only [statementMarks, List.forall_mem_cons] at first
    obtain ⟨brace, parenthesis, bracket, brace', parenthesis', bracket', newline, -⟩ := first
    rw [List.cons_append, statementEnd]
    simp only [brace, parenthesis, bracket, brace', parenthesis', bracket', newline, decide_false,
      Bool.or_false, Bool.false_and, Bool.false_eq_true, if_false]
    rw [ih others, List.length_cons, Nat.add_assoc, Nat.add_comm 1]

/-- The byte of a bracket or a line feed is told from other ones as the character is. -/
theorem statementEnd_mark {c : Char} (mark : c ∈ statementMarks) (depth : Int) (cursor : Nat)
    (rest : List UInt8) :
    statementEnd depth cursor (c.toUInt8 :: rest) =
      if c = '{' || c = '(' || c = '[' then statementEnd (depth + 1) (cursor + 1) rest
      else if c = '}' || c = ')' || c = ']' then statementEnd (depth - 1) (cursor + 1) rest
      else if c = '\n' && depth ≤ 0 then cursor + 1
      else statementEnd depth (cursor + 1) rest := by
  have told : (statementMarks.all fun c ↦ statementMarks.all fun other ↦
      decide (c.toUInt8 = other.toUInt8) == decide (c = other)) = true := by decide
  have one {other : Char} (isMark : other ∈ statementMarks) :
      decide (c.toUInt8 = other.toUInt8) = decide (c = other) :=
    beq_iff_eq.mp (List.all_eq_true.mp (List.all_eq_true.mp told c mark) other isMark)
  rw [statementEnd, one (by decide), one (by decide), one (by decide), one (by decide),
    one (by decide), one (by decide), one (by decide)]

/-- A statement that is skipped byte by byte ends where it ends character by character. -/
theorem statementEnd_bytes (depth : Int) (cursor : Nat) (text : List Char) :
    statementEnd depth cursor (bytes text) =
      cursor + (utf8Length text - utf8Length (dropStatement depth text)) := by
  induction text generalizing depth cursor with
  | nil => rfl
  | cons c text ih =>
    have goesOn (depth : Int) (size : Nat) :
        cursor + size + (utf8Length text - utf8Length (dropStatement depth text)) =
          cursor + (size + utf8Length text - utf8Length (dropStatement depth text)) := by
      have := utf8Length_le_of_isInfix
        ((dropStatement_suffix depth text).trans (List.tail_suffix text)).isInfix
      omega
    rw [utf8Length_cons, dropStatement]
    by_cases mark : c ∈ statementMarks
    · have ascii := utf8Size_of_mem_statementMarks mark
      rw [bytes_cons_of_utf8Size ascii, statementEnd_mark mark, ascii]
      split
      · rw [ih, goesOn]
      · split
        · rw [ih, goesOn]
        · split
          · rw [Nat.add_sub_cancel]
          · rw [ih, goesOn]
    · have plain : ∀ byte ∈ String.utf8EncodeChar c, ∀ mark ∈ statementMarks,
          byte ≠ mark.toUInt8 := by
        intro byte member other isMark
        refine ne_of_mem_utf8EncodeChar (utf8Size_of_mem_statementMarks isMark) ?_ member
        rintro rfl
        exact mark isMark
      rw [bytes_cons, statementEnd_append plain, ih, String.length_utf8EncodeChar]
      simp only [statementMarks, List.mem_cons, List.not_mem_nil, or_false, not_or] at mark
      obtain ⟨brace, parenthesis, bracket, brace', parenthesis', bracket', newline⟩ := mark
      simp only [brace, parenthesis, bracket, brace', parenthesis', bracket', newline, decide_false,
        Bool.or_false, Bool.false_and, Bool.false_eq_true, if_false]
      rw [goesOn]

/-! ## Loops -/

/-- The rounds of a loop get on as the steps do that they stand for. -/
theorem progresses_of_advances {α : Type} {step : Passage → Option (α × Passage)} {whole : Passage}
    {round : Nat → Checked (Option (α × Nat))} (advances : Advances step)
    (same : ∀ cursor passage, At whole cursor passage →
      round cursor = .ok (reached cursor passage (step passage))) :
    Progresses whole round := by
  intro cursor isPlace
  obtain ⟨passage, place⟩ := At.exists_of_isPlace isPlace
  rw [same cursor passage place]
  cases moved : step passage with
  | none => exact .inl rfl
  | some parts =>
    obtain ⟨found, rest⟩ := parts
    obtain ⟨leads, shorter⟩ := advances passage found rest moved
    exact .inr ⟨found, _, rfl, Nat.lt_add_of_pos_right (leads.distance_pos shorter),
      (place.further leads).isPlace⟩

/-- The rounds of a loop find what the steps find that they stand for, as each of them gets further. -/
theorem repeatRounds_eq {α : Type} {step : Passage → Option (α × Passage)} {whole : Passage}
    {round : Nat → Checked (Option (α × Nat))} (advances : Advances step)
    (same : ∀ cursor passage, At whole cursor passage →
      round cursor = .ok (reached cursor passage (step passage)))
    {cursor : Nat} {passage : Passage} (place : At whole cursor passage) :
    repeatRounds (utf8Length whole.text) round cursor =
      .ok ((repeatStep step passage).1,
        cursor + passage.distance (repeatStep step passage).2) := by
  induction size : passage.length using Nat.strongRecOn generalizing cursor passage with
  | ind size ih =>
    rw [repeatRounds, same cursor passage place, repeatStep_eq advances]
    cases moved : step passage with
    | none =>
      simp only [reached, Option.map_none, distance_self, Nat.add_zero]
    | some parts =>
      obtain ⟨found, rest⟩ := parts
      obtain ⟨leads, shorter⟩ := advances passage found rest moved
      have next := place.further leads
      have further : cursor < cursor + passage.distance rest ∧
          cursor + passage.distance rest ≤ utf8Length whole.text := by
        have := leads.distance_pos shorter
        have := next.count
        omega
      have toLast := leads_repeatStep advances rest
      simp only [reached, Option.map_some]
      rw [if_pos further, ih rest.length (by omega) next rfl, distance_trans leads toLast,
        Nat.add_assoc]
      rfl

end Cursor

end ViewPreview.Passage
