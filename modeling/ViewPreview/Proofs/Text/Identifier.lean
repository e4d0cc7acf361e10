import ViewPreview.Call.Literal
import ViewPreview.Proofs.Text.Span

/-!
# Identifiers

A text is an identifier when it is not empty, begins with an ASCII letter or a low line, and goes on
with these and ASCII digits.  The characters of identifiers are word characters and no blanks, so an
identifier is read off the start of any text in which something else follows it.
-/

namespace ViewPreview.Text

/-- Whether a text is an ASCII identifier. -/
def isIdentifier : List Char → Bool
  | [] => false
  | c :: rest => isIdentifierStart c && rest.all isIdentifierPart

/-- An ASCII identifier. -/
structure Identifier where
  chars : List Char
  isIdentifier_chars : isIdentifier chars = true

/-- An identifier as a string. -/
def Identifier.string (name : Identifier) : String :=
  String.ofList name.chars

/-! ## Characters of identifiers -/

theorem isAsciiLetter_iff (c : Char) :
    isAsciiLetter c = true ↔ (97 ≤ c.toNat ∧ c.toNat ≤ 122) ∨ (65 ≤ c.toNat ∧ c.toNat ≤ 90) := by
  simp [isAsciiLetter, Char.le_def, UInt32.le_iff_toNat_le]

theorem isAsciiDigit_iff (c : Char) : isAsciiDigit c = true ↔ 48 ≤ c.toNat ∧ c.toNat ≤ 57 := by
  simp [isAsciiDigit, Char.le_def, UInt32.le_iff_toNat_le]

theorem isIdentifierPart_of_isIdentifierStart {c : Char} (start : isIdentifierStart c = true) :
    isIdentifierPart c = true := by
  unfold isIdentifierStart at start
  unfold isIdentifierPart
  rw [Bool.or_eq_true] at start
  rcases start with letter | line
  · rw [letter, Bool.true_or, Bool.true_or]
  · rw [line, Bool.or_true]

theorem toNat_lt_of_isIdentifierPart {c : Char} (part : isIdentifierPart c = true) :
    48 ≤ c.toNat ∧ c.toNat < 128 := by
  unfold isIdentifierPart at part
  simp only [Bool.or_eq_true, isAsciiLetter_iff, isAsciiDigit_iff, beq_iff_eq] at part
  rcases part with (letter | digit) | line
  · omega
  · omega
  · rw [line]
    decide

theorem not_isAsciiDigit_of_isIdentifierStart {c : Char} (start : isIdentifierStart c = true) :
    isAsciiDigit c = false := by
  rw [Bool.eq_false_iff, Ne, isAsciiDigit_iff]
  rw [isIdentifierStart, Bool.or_eq_true, isAsciiLetter_iff] at start
  rcases start with letter | line
  · omega
  · rw [beq_iff_eq.mp line]
    decide

/-- The characters of identifiers are the word characters among the ASCII characters. -/
theorem isWord_of_isIdentifierPart {c : Char} (part : isIdentifierPart c = true) :
    isWord c = true := by
  have bound := (toNat_lt_of_isIdentifierPart part).2
  unfold isWord
  rw [if_pos bound]
  exact part

theorem not_isBlank_of_isIdentifierPart {c : Char} (part : isIdentifierPart c = true) :
    isBlank c = false := by
  have bounds := toNat_lt_of_isIdentifierPart part
  unfold isBlank
  simp only [Bool.or_eq_false_iff, Bool.and_eq_false_iff, decide_eq_false_iff_not,
    beq_eq_false_iff_ne]
  omega

theorem not_isIdentifierPart_of_isBlank {c : Char} (blank : isBlank c = true) :
    isIdentifierPart c = false := by
  rw [Bool.eq_false_iff]
  intro part
  rw [not_isBlank_of_isIdentifierPart part] at blank
  exact Bool.noConfusion blank

theorem ne_of_isIdentifierPart {c d : Char} (part : isIdentifierPart c = true)
    (other : isIdentifierPart d = false) : c ≠ d := by
  intro same
  rw [same, other] at part
  exact Bool.noConfusion part

/-! ## Small letters -/

theorem isAsciiLetter_lowerChar (c : Char) : isAsciiLetter (lowerChar c) = isAsciiLetter c := by
  unfold lowerChar
  split
  · next isCapital =>
    have bounds : 65 ≤ c.toNat ∧ c.toNat ≤ 90 := by
      simpa [Char.le_def, UInt32.le_iff_toNat_le] using isCapital
    have valid : (c.toNat + 32).isValidChar := Or.inl (by omega)
    have small : (Char.ofNat (c.toNat + 32)).toNat = c.toNat + 32 := by
      rw [Char.ofNat, dif_pos valid]
      rfl
    rw [(isAsciiLetter_iff _).mpr (by omega), (isAsciiLetter_iff c).mpr (by omega)]
  · rfl

theorem isIdentifierStart_lowerChar {c : Char} (start : isIdentifierStart c = true) :
    isIdentifierStart (lowerChar c) = true := by
  unfold isIdentifierStart at start ⊢
  rw [isAsciiLetter_lowerChar, Bool.or_eq_true]
  rcases (Bool.or_eq_true _ _).mp start with letter | line
  · exact Or.inl letter
  · rw [beq_iff_eq] at line
    rw [line]
    exact Or.inr (by decide)

theorem isIdentifierPart_lowerChar {c : Char} (part : isIdentifierPart c = true) :
    isIdentifierPart (lowerChar c) = true := by
  by_cases start : isIdentifierStart c = true
  · exact isIdentifierPart_of_isIdentifierStart (isIdentifierStart_lowerChar start)
  · have notCapital : ¬('A' ≤ c && c ≤ 'Z') = true := by
      intro isCapital
      apply start
      unfold isIdentifierStart isAsciiLetter
      rw [isCapital, Bool.or_true, Bool.true_or]
    unfold lowerChar
    rw [if_neg notCapital]
    exact part

/-! ## Words -/

/-- A nonempty run of word characters, which may be of any script. -/
structure Word where
  chars : List Char
  chars_ne_nil : chars ≠ []
  isWord_of_mem : ∀ c ∈ chars, isWord c = true

namespace Word

variable (word : Word)

/-- A word as a string. -/
def string : String :=
  String.ofList word.chars

theorem not_mem_chars {c : Char} (other : isWord c = false) : c ∉ word.chars := by
  intro member
  rw [word.isWord_of_mem c member] at other
  exact Bool.noConfusion other

theorem takeWhile_append {rest : List Char} (stops : Stops isWord rest) :
    (word.chars ++ rest).takeWhile isWord = word.chars :=
  takeWhile_append_of_stops word.isWord_of_mem stops

theorem dropWhile_append {rest : List Char} (stops : Stops isWord rest) :
    (word.chars ++ rest).dropWhile isWord = rest :=
  dropWhile_append_of_stops word.isWord_of_mem stops

end Word

/-! ## Identifiers at the start of a text -/

namespace Identifier

variable (name : Identifier)

theorem exists_chars : ∃ c rest, name.chars = c :: rest ∧ isIdentifierStart c = true ∧
    ∀ d ∈ rest, isIdentifierPart d = true := by
  obtain ⟨chars, valid⟩ := name
  cases chars with
  | nil => exact absurd valid Bool.false_ne_true
  | cons c rest =>
    unfold isIdentifier at valid
    rw [Bool.and_eq_true, List.all_eq_true] at valid
    exact ⟨c, rest, rfl, valid.1, valid.2⟩

theorem isIdentifierPart_of_mem {c : Char} (member : c ∈ name.chars) :
    isIdentifierPart c = true := by
  obtain ⟨first, rest, same, start, parts⟩ := name.exists_chars
  rw [same] at member
  rcases List.mem_cons.mp member with rfl | later
  · exact isIdentifierPart_of_isIdentifierStart start
  · exact parts c later

theorem chars_ne_nil : name.chars ≠ [] := by
  obtain ⟨first, rest, same, -, -⟩ := name.exists_chars
  rw [same]
  exact List.cons_ne_nil first rest

theorem not_mem_chars {c : Char} (other : isIdentifierPart c = false) : c ∉ name.chars := by
  intro member
  exact ne_of_isIdentifierPart (name.isIdentifierPart_of_mem member) other rfl

theorem not_isBlank_of_mem {c : Char} (member : c ∈ name.chars) : isBlank c = false :=
  not_isBlank_of_isIdentifierPart (name.isIdentifierPart_of_mem member)

/-- An identifier is a word. -/
def word : Word where
  chars := name.chars
  chars_ne_nil := name.chars_ne_nil
  isWord_of_mem _ member := isWord_of_isIdentifierPart (name.isIdentifierPart_of_mem member)

theorem takeWhile_isWord_append {rest : List Char} (stops : Stops isWord rest) :
    (name.chars ++ rest).takeWhile isWord = name.chars :=
  name.word.takeWhile_append stops

theorem dropWhile_isWord_append {rest : List Char} (stops : Stops isWord rest) :
    (name.chars ++ rest).dropWhile isWord = rest :=
  name.word.dropWhile_append stops

/-- An identifier is split off the start of a text in which something else follows it. -/
theorem splitIdentifier?_append {rest : List Char} (stops : Stops isIdentifierPart rest) :
    Call.splitIdentifier? (name.chars ++ rest) = some (name.chars, rest) := by
  obtain ⟨first, others, same, start, parts⟩ := name.exists_chars
  rw [same, List.cons_append, Call.splitIdentifier?.eq_def]
  simp only [start, if_true, takeWhile_append_of_stops parts stops,
    dropWhile_append_of_stops parts stops]

/-- What is split off the start of a text as an identifier is one, and something else follows it. -/
theorem exists_of_splitIdentifier? {text start rest : List Char}
    (split : Call.splitIdentifier? text = some (start, rest)) :
    ∃ name : Identifier, start = name.chars ∧ text = name.chars ++ rest ∧
      Stops isIdentifierPart rest := by
  cases text with
  | nil => cases split
  | cons c text =>
    rw [Call.splitIdentifier?.eq_def] at split
    by_cases isStart : isIdentifierStart c = true
    · simp only [isStart, if_true] at split
      obtain ⟨rfl, rfl⟩ := Prod.mk.inj (Option.some.inj split)
      have parts : (text.takeWhile isIdentifierPart).all isIdentifierPart = true :=
        List.all_takeWhile
      have isName : isIdentifier (c :: text.takeWhile isIdentifierPart) = true := by
        rw [isIdentifier, isStart, parts, Bool.and_true]
      refine ⟨⟨_, isName⟩, rfl, ?_, stops_dropWhile isIdentifierPart text⟩
      rw [List.cons_append, List.takeWhile_append_dropWhile]
    · simp only [isStart] at split
      cases split

theorem trimmed_chars : Trimmed name.chars :=
  trimmed_of_forall fun _ member ↦ name.not_isBlank_of_mem member

end Identifier

/-- A name stays where it is when something other than its characters is skipped. -/
theorem dropWhile_identifier {condition : Char → Bool}
    (other : ∀ c, isIdentifierPart c = true → condition c = false) (name : Identifier)
    (rest : List Char) : (name.chars ++ rest).dropWhile condition = name.chars ++ rest := by
  obtain ⟨first, others, same, start, -⟩ := name.exists_chars
  apply dropWhile_eq_self_of_stops
  rw [same, List.cons_append]
  exact stops_cons.mpr (other first (isIdentifierPart_of_isIdentifierStart start))

theorem trimStart_identifier (name : Identifier) (rest : List Char) :
    trimStart (name.chars ++ rest) = name.chars ++ rest :=
  dropWhile_identifier (fun _ ↦ not_isBlank_of_isIdentifierPart) name rest

end ViewPreview.Text
