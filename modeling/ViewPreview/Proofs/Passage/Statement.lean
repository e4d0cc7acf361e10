import ViewPreview.Passage.Statement
import ViewPreview.Proofs.Passage.Scan

/-!
# Statements That Begin With a Call

A statement that begins with a name and an opening bracket cannot be mistaken for a part of what
stands before it: it goes on no expression, labels no closure and names no parameter.  A parameter
is recognised by the word `in` behind it.
-/

namespace ViewPreview.Passage

open ViewPreview.Text ViewPreview.Call

/-- Whether a text begins with a name and an opening bracket, with nothing but blanks between
them. -/
def BeginsCall (text : List Char) : Prop :=
  ∃ (name : Identifier) (tail : List Char) (opening : Char) (others : List Char),
    text = name.chars ++ tail ∧ Stops isWord tail ∧ trimStart tail = opening :: others ∧
      opening ∈ ['(', '{']

/-! ## Names -/

theorem splitName?_append (name : Identifier) {rest : List Char} (stops : Stops isWord rest) :
    splitName? (name.chars ++ rest) = some (name.chars, rest) := by
  obtain ⟨first, others, same, start, parts⟩ := name.exists_chars
  have word : ∀ c ∈ others, isWord c = true := by
    intro c member
    exact isWord_of_isIdentifierPart (parts c member)
  rw [same, List.cons_append, splitName?, if_pos start, takeWhile_append_of_stops word stops,
    dropWhile_append_of_stops word stops]

theorem isAsciiBlank_isBlank {c : Char} (blank : isAsciiBlank c = true) : isBlank c = true := by
  simp only [isAsciiBlank, Bool.or_eq_true, beq_iff_eq] at blank
  rcases blank with (((rfl | rfl) | rfl) | rfl) | rfl
  · decide
  · decide
  · decide
  · decide
  · decide

theorem not_isAsciiBlank_of_isIdentifierPart {c : Char} (part : isIdentifierPart c = true) :
    isAsciiBlank c = false := by
  rw [Bool.eq_false_iff]
  intro blank
  have visible := not_isBlank_of_isIdentifierPart part
  rw [isAsciiBlank_isBlank blank] at visible
  exact Bool.noConfusion visible

theorem head_identifier_ne (name : Identifier) (rest : List Char) {c : Char}
    (other : isIdentifierPart c = false) : (name.chars ++ rest).head? ≠ some c := by
  obtain ⟨first, others, same, start, -⟩ := name.exists_chars
  rw [same]
  intro found
  have part := isIdentifierPart_of_isIdentifierStart start
  exact ne_of_isIdentifierPart part other (Option.some.inj found)

/-! ## Starts of statements -/

/-- Whether a text is blank, or begins behind blanks with a name that labels no closure. -/
def BeginsStatement (text : List Char) : Prop :=
  ∃ blanks others, text = blanks ++ others ∧ (∀ c ∈ blanks, isAsciiBlank c = true) ∧
    (∀ c ∈ others.head?, isIdentifierStart c = true) ∧ beginsLabeledBlock others = false

/-- What skips no character of a name stops where a name starts. -/
theorem stops_of_isIdentifierStart {condition : Char → Bool} {text : List Char}
    (named : ∀ c ∈ text.head?, isIdentifierStart c = true)
    (other : ∀ c, isIdentifierPart c = true → condition c = false) : Stops condition text :=
  fun c member ↦ other c (isIdentifierPart_of_isIdentifierStart (named c member))

theorem head_identifier (name : Identifier) (rest : List Char) :
    ∀ c ∈ (name.chars ++ rest).head?, isIdentifierStart c = true := by
  obtain ⟨first, others, same, start, -⟩ := name.exists_chars
  rw [same]
  intro c member
  exact Option.some.inj member ▸ start

theorem beginsLabeledBlock_of_beginsCall {text : List Char} (begins : BeginsCall text) :
    beginsLabeledBlock text = false := by
  obtain ⟨name, tail, opening, others, rfl, stops, bracket, isOpening⟩ := begins
  rw [beginsLabeledBlock, splitName?_append name stops]
  simp only [bracket]
  split
  · next heq =>
    cases heq
    exact absurd isOpening (by decide)
  · rfl

theorem BeginsCall.head_isIdentifierStart {text : List Char} (begins : BeginsCall text) :
    ∀ c ∈ text.head?, isIdentifierStart c = true := by
  obtain ⟨name, tail, -, -, rfl, -, -, -⟩ := begins
  exact head_identifier name tail

theorem BeginsStatement.blanks_append {blanks text : List Char} (begins : BeginsStatement text)
    (blank : ∀ c ∈ blanks, isAsciiBlank c = true) : BeginsStatement (blanks ++ text) := by
  obtain ⟨later, others, rfl, blankLater, named, noLabeledBlock⟩ := begins
  exact ⟨blanks ++ later, others, (List.append_assoc _ _ _).symm,
    List.forall_mem_append.mpr ⟨blank, blankLater⟩, named, noLabeledBlock⟩

theorem beginsStatement_named {text : List Char}
    (named : ∀ c ∈ text.head?, isIdentifierStart c = true)
    (noLabeledBlock : beginsLabeledBlock text = false) : BeginsStatement text :=
  ⟨[], text, rfl, fun _ member ↦ absurd member List.not_mem_nil, named, noLabeledBlock⟩

theorem BeginsCall.beginsStatement {text : List Char} (begins : BeginsCall text) :
    BeginsStatement text :=
  beginsStatement_named begins.head_isIdentifierStart (beginsLabeledBlock_of_beginsCall begins)

theorem beginsStatement_blanks {blanks : List Char} (blank : ∀ c ∈ blanks, isAsciiBlank c = true) :
    BeginsStatement blanks :=
  ⟨blanks, [], (List.append_nil _).symm, blank, (fun _ member ↦ nomatch member), rfl⟩

/-! ## Ends of expressions -/

theorem endsExpression_blanks {blanks : List Char} (blank : ∀ c ∈ blanks, isAsciiBlank c = true) :
    EndsExpression blanks := by
  have dropped : blanks.dropWhile isAsciiBlank = [] := by
    have passed := dropWhile_append_of_stops blank (stops_nil isAsciiBlank)
    rwa [List.append_nil] at passed
  refine ⟨?_, ?_, ?_⟩
  · intro brace
    have member := (List.dropWhile_sublist isInlineBlank).subset (List.mem_of_mem_head? brace)
    exact absurd (blank _ member) (by decide)
  · rw [NoLabeledBlock, dropped]
    rfl
  · rw [NoLink, dropped]
    rintro ⟨⟩

/-- An expression ends where the line does, unless the next line goes on with it. -/
theorem endsExpression_line {trailing text : List Char}
    (blank : ∀ c ∈ trailing, isAsciiBlank c = true) (begins : BeginsStatement text) :
    EndsExpression (trailing ++ '\n' :: text) := by
  obtain ⟨blanks, others, rfl, blankLater, named, noLabeledBlock⟩ := begins
  have stops : Stops isAsciiBlank others :=
    stops_of_isIdentifierStart named fun _ ↦ not_isAsciiBlank_of_isIdentifierPart
  have dropped : (trailing ++ '\n' :: (blanks ++ others)).dropWhile isAsciiBlank = others := by
    have between : ∀ c ∈ trailing ++ '\n' :: blanks, isAsciiBlank c = true :=
      List.forall_mem_append.mpr ⟨blank, List.forall_mem_cons.mpr ⟨by decide, blankLater⟩⟩
    rw [← List.cons_append, ← List.append_assoc, dropWhile_append_of_stops between stops]
  refine ⟨?_, ?_, ?_⟩
  · intro brace
    rw [dropWhile_append_cons (by decide), List.head?_append, Option.or_eq_some_iff] at brace
    rcases brace with inside | ⟨-, feed⟩
    · exact (endsExpression_blanks blank).noBlock inside
    · exact absurd (Option.some.inj feed) (by decide)
  · rw [NoLabeledBlock, dropped]
    exact noLabeledBlock
  · rw [NoLink, dropped]
    intro dot
    exact absurd (named _ dot) (by decide)

theorem endsExpression_newline {text : List Char} (next : text = [] ∨ BeginsCall text) :
    EndsExpression ('\n' :: text) := by
  have noBlanks : ∀ c ∈ ([] : List Char), isAsciiBlank c = true :=
    fun _ member ↦ absurd member List.not_mem_nil
  rcases next with rfl | begins
  · exact endsExpression_line noBlanks (beginsStatement_blanks noBlanks)
  · exact endsExpression_line noBlanks begins.beginsStatement

/-! ## Parameters -/

theorem afterBlankIn?_eq_none {text others : List Char} {opening : Char}
    (bracket : trimStart text = opening :: others) (isOpening : opening ∈ ['(', '{']) :
    afterBlankIn? text = none := by
  cases text with
  | nil => cases bracket
  | cons c text =>
    unfold afterBlankIn?
    by_cases blank : isBlank c = true
    · rw [trimStart_cons_of_isBlank blank] at bracket
      simp only [blank, if_true, bracket, afterIn?]
      split
      · next heq =>
        cases heq
        exact absurd isOpening (by decide)
      · rfl
    · simp only [if_neg blank]

theorem afterOpening_identifier {c : Char} (blank : isBlank c = true) (name : Identifier)
    (rest : List Char) : afterOpening (c :: (name.chars ++ rest)) = name.chars ++ rest := by
  rw [afterOpening, trimStart_cons_of_isBlank blank, trimStart_identifier]
  split
  · next heq =>
    exact absurd (congrArg List.head? heq) (head_identifier_ne name rest (by decide))
  · rfl

/-- The first statement of a closure is not mistaken for its parameters. -/
theorem parameter?_eq_none {text : List Char} (next : text = [] ∨ BeginsCall text) :
    parameter? ('\n' :: text) = none := by
  rcases next with rfl | ⟨name, tail, opening, others, rfl, stops, bracket, isOpening⟩
  · rfl
  · have noParenthesis : afterOpening ('\n' :: (name.chars ++ tail)) = name.chars ++ tail :=
      afterOpening_identifier (by decide) name tail
    have noNames : afterNames? tail = some tail := by
      rw [afterNames?.eq_def]
      split
      · next heq =>
        rw [bracket] at heq
        cases heq
        exact absurd isOpening (by decide)
      · rfl
    have noIn : afterParameters? tail = none := by
      unfold afterParameters?
      split
      · next heq =>
        rw [bracket] at heq
        cases heq
        exact absurd isOpening (by decide)
      · exact afterBlankIn?_eq_none bracket isOpening
    simp only [parameter?, noParenthesis, splitName?_append name stops, Option.bind_eq_bind,
      Option.bind_some, noNames, noIn, Option.bind_none]

/-- A parameter is read off the start of a closure. -/
theorem parameter?_in (row : Identifier) (text : List Char) :
    parameter? (' ' :: (row.chars ++ ' ' :: 'i' :: 'n' :: '\n' :: text)) =
      some (row.string, '\n' :: text) := by
  have stops : Stops isWord (' ' :: 'i' :: 'n' :: '\n' :: text) := stops_cons.mpr (by decide)
  have noParenthesis (rest : List Char) :
      afterOpening (' ' :: (row.chars ++ rest)) = row.chars ++ rest :=
    afterOpening_identifier (by decide) row rest
  have noNames : afterNames? (' ' :: 'i' :: 'n' :: '\n' :: text) =
      some (' ' :: 'i' :: 'n' :: '\n' :: text) := by
    rw [afterNames?.eq_def]
    rfl
  have found : afterParameters? (' ' :: 'i' :: 'n' :: '\n' :: text) = some ('\n' :: text) := rfl
  simp only [parameter?, noParenthesis, splitName?_append row stops, Option.bind_eq_bind,
    Option.bind_some, noNames, found]
  rfl

/-! ## Statements -/

/-- Blanks before a statement only move its line. -/
theorem statement?_blanks {blanks : List Char} (blank : ∀ c ∈ blanks, isAsciiBlank c = true)
    (line : Nat) (text : List Char) :
    statement? ⟨some line, blanks ++ text⟩ = statement? ⟨some (line + lineFeeds blanks), text⟩ := by
  have skipped : ∀ c ∈ blanks, (isAsciiBlank c || c == ';') = true := by
    intro c member
    rw [blank c member, Bool.true_or]
  obtain ⟨run, written, -⟩ := exists_run_of_dropWhile
    (rfl : text.dropWhile (fun c ↦ isAsciiBlank c || c == ';') = _)
  have far := moveTo_append (some line) (blanks ++ run)
    (text.dropWhile fun c ↦ isAsciiBlank c || c == ';')
  have near := moveTo_append (some (line + lineFeeds blanks)) run
    (text.dropWhile fun c ↦ isAsciiBlank c || c == ';')
  rw [List.append_assoc, ← written] at far
  rw [← written] at near
  have start : skipWhile (fun c ↦ isAsciiBlank c || c == ';') ⟨some line, blanks ++ text⟩ =
      skipWhile (fun c ↦ isAsciiBlank c || c == ';') ⟨some (line + lineFeeds blanks), text⟩ := by
    rw [skipWhile, skipWhile, List.dropWhile_append_of_pos skipped, far, near, lineFeeds_append,
      Option.map_some, Option.map_some, Nat.add_assoc]
  rw [statement?, statement?, start]

section Named

variable {text : List Char} (named : ∀ c ∈ text.head?, isIdentifierStart c = true) {line : Nat}

include named

/-- A statement starts with its name. -/
theorem skipWhile_named :
    skipWhile (fun c ↦ isAsciiBlank c || c == ';') ⟨some line, text⟩ = ⟨some line, text⟩ := by
  have stops : Stops (fun c ↦ isAsciiBlank c || c == ';') text := by
    apply stops_of_isIdentifierStart named
    intro c part
    rw [Bool.or_eq_false_iff, beq_eq_false_iff_ne]
    exact ⟨not_isAsciiBlank_of_isIdentifierPart part, ne_of_isIdentifierPart part (by decide)⟩
  rw [skipWhile, dropWhile_eq_self_of_stops stops]
  exact moveTo_self line text

variable (nonempty : text ≠ [])

include nonempty

theorem statement?_scanned {after : Passage} {scan : Scan}
    (scanned : scan? ⟨some line, text⟩ = some (scan, after)) :
    statement? ⟨some line, text⟩ = some (⟨⟨some line, text⟩, some scan⟩, after) := by
  have visible := Bool.eq_false_iff.mpr (mt List.isEmpty_iff.mp nonempty)
  unfold statement?
  simp only [skipWhile_named named, visible, Bool.false_eq_true, if_false, scanned]

/-- A statement that is no expression is dropped. -/
theorem statement?_dropped (unscanned : scan? ⟨some line, text⟩ = none) :
    statement? ⟨some line, text⟩ =
      some (⟨⟨some line, text⟩, none⟩,
        (⟨some line, text⟩ : Passage).moveTo (dropStatement 0 text)) := by
  have visible := Bool.eq_false_iff.mpr (mt List.isEmpty_iff.mp nonempty)
  unfold statement?
  simp only [skipWhile_named named, visible, Bool.false_eq_true, if_false, unscanned]

end Named

theorem BeginsCall.ne_nil {text : List Char} (begins : BeginsCall text) : text ≠ [] := by
  obtain ⟨name, tail, -, -, rfl, -, -, -⟩ := begins
  exact List.append_ne_nil_of_left_ne_nil name.chars_ne_nil tail

theorem statement?_eq_none {line : Nat} {blanks : List Char}
    (blank : ∀ c ∈ blanks, isAsciiBlank c = true) : statement? ⟨some line, blanks⟩ = none := by
  have skipped := statement?_blanks blank line []
  rw [List.append_nil] at skipped
  exact skipped

end ViewPreview.Passage
