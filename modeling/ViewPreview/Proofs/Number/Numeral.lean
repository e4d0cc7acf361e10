import ViewPreview.Number.Layout
import ViewPreview.Number.Numeral
import ViewPreview.Proofs.Text.Identifier
import ViewPreview.Proofs.Text.Occurrence

/-!
# Numerals and Their Values

A decimal numeral is an optional minus sign, digits, and an optional point with more digits.  It is
split off the start of any text that does not go on with a digit or a point, and read as the number
that its digits denote.  The text of a 64-bit integer is read back as that integer.
-/

namespace ViewPreview.Number

open ViewPreview.Text

/-! ## Digits -/

theorem isDigit_of_isAsciiDigit {c : Char} (digit : isAsciiDigit c = true) :
    isDigit c = true := by
  have bounds := (isAsciiDigit_iff c).mp digit
  unfold isDigit
  rw [if_pos (by omega)]
  exact digit

theorem ne_of_isAsciiDigit {c d : Char} (digit : isAsciiDigit c = true)
    (other : isAsciiDigit d = false) : c ≠ d := by
  intro same
  rw [same, other] at digit
  exact Bool.noConfusion digit

theorem foldlM_digitValue? {digits : List Char} (all : ∀ c ∈ digits, isAsciiDigit c = true)
    (total : Nat) :
    digits.foldlM (fun total c ↦ (digitValue? c).map (10 * total + ·)) total =
      some (Nat.ofDigitChars 10 digits total) := by
  induction digits generalizing total with
  | nil => rfl
  | cons c digits ih =>
    obtain ⟨digit, others⟩ := List.forall_mem_cons.mp all
    rw [List.foldlM_cons, digitValue?, if_pos digit, Nat.ofDigitChars_cons]
    exact ih others _

/-- The value of ASCII digits. -/
theorem digitsValue?_eq {digits : List Char} (all : ∀ c ∈ digits, isAsciiDigit c = true) :
    digitsValue? digits = some (Nat.ofDigitChars 10 digits 0) :=
  foldlM_digitValue? all 0

/-! ## Numerals -/

/-- A decimal numeral, with any number of places. -/
structure Numeral where
  negative : Bool
  whole : List Char
  fraction : List Char
  whole_ne_nil : whole ≠ []
  isAsciiDigit_whole : ∀ c ∈ whole, isAsciiDigit c = true
  isAsciiDigit_fraction : ∀ c ∈ fraction, isAsciiDigit c = true

/-- A numeral that is split off is split off also where fractions may be bare. -/
theorem splitLooseNumeral?_of_splitNumeral? {text : List Char} {parts : List Char × List Char}
    (split : splitNumeral? text = some parts) : splitLooseNumeral? text = some parts := by
  rw [splitNumeral?.eq_def] at split
  rw [splitLooseNumeral?.eq_def]
  split at split
  · next rest =>
    obtain ⟨unsigned, found, rfl⟩ := Option.map_eq_some_iff.mp split
    simp only [found, Option.map_some]
  · simp only [split]

namespace Numeral

/-- The minus sign of a numeral. -/
def sign (numeral : Numeral) : List Char :=
  if numeral.negative then ['-'] else []

/-- The point of a numeral and the digits behind it. -/
def places (numeral : Numeral) : List Char :=
  if numeral.fraction = [] then [] else '.' :: numeral.fraction

/-- A numeral without its sign. -/
def unsigned (numeral : Numeral) : List Char :=
  numeral.whole ++ numeral.places

/-- A numeral as it is written. -/
def text (numeral : Numeral) : List Char :=
  numeral.sign ++ numeral.unsigned

/-- The number nearest to what a numeral denotes. -/
def value (numeral : Numeral) : Float :=
  ofDecimal numeral.negative (Nat.ofDigitChars 10 (numeral.whole ++ numeral.fraction) 0)
    (-(numeral.fraction.length : Int))

variable (numeral : Numeral)

/-- What may follow a numeral. -/
def EndsNumeral (rest : List Char) : Prop :=
  Stops (fun c ↦ isDigit c || c == '.') rest

theorem EndsNumeral.stops {rest : List Char} (ends : EndsNumeral rest) : Stops isDigit rest := by
  intro c member
  exact (Bool.or_eq_false_iff.mp (ends c member)).1

theorem isDigit_whole : ∀ c ∈ numeral.whole, isDigit c = true := by
  intro c member
  exact isDigit_of_isAsciiDigit (numeral.isAsciiDigit_whole c member)

theorem isDigit_fraction : ∀ c ∈ numeral.fraction, isDigit c = true := by
  intro c member
  exact isDigit_of_isAsciiDigit (numeral.isAsciiDigit_fraction c member)

theorem splitFraction_append {rest : List Char} (ends : EndsNumeral rest) :
    splitFraction (numeral.places ++ rest) = (numeral.places, rest) := by
  unfold places
  split
  · rw [List.nil_append]
    cases rest with
    | nil => rfl
    | cons c rest =>
      have noPoint : c ≠ '.' := by
        have other := (Bool.or_eq_false_iff.mp (stops_cons.mp ends)).2
        exact beq_eq_false_iff_ne.mp other
      rw [splitFraction]
      intro others same
      exact noPoint (List.cons.inj same).1
  · next present =>
    have run := takeWhile_append_of_stops numeral.isDigit_fraction ends.stops
    have after := dropWhile_append_of_stops numeral.isDigit_fraction ends.stops
    have nonempty : numeral.fraction.isEmpty = false :=
      Bool.eq_false_iff.mpr fun empty ↦ present (List.isEmpty_iff.mp empty)
    rw [List.cons_append, splitFraction, run, after, nonempty, if_neg Bool.false_ne_true]

theorem stops_places {rest : List Char} (ends : EndsNumeral rest) :
    Stops isDigit (numeral.places ++ rest) := by
  unfold places
  split
  · exact ends.stops
  · exact stops_cons.mpr (by decide)

/-- The digits of a numeral are split off the start of a text. -/
theorem splitUnsigned?_append {rest : List Char} (ends : EndsNumeral rest) :
    splitUnsigned? (numeral.unsigned ++ rest) = some (numeral.unsigned, rest) := by
  have stops := numeral.stops_places ends
  have run := takeWhile_append_of_stops numeral.isDigit_whole stops
  have after := dropWhile_append_of_stops numeral.isDigit_whole stops
  have nonempty : numeral.whole.isEmpty = false :=
    Bool.eq_false_iff.mpr fun empty ↦ numeral.whole_ne_nil (List.isEmpty_iff.mp empty)
  unfold unsigned splitUnsigned?
  rw [List.append_assoc]
  simp only [run, after, nonempty, numeral.splitFraction_append ends, if_false,
    Bool.false_eq_true]

theorem unsigned_eq_cons : ∃ c rest, numeral.unsigned = c :: rest ∧ isAsciiDigit c = true := by
  obtain ⟨c, others, same⟩ := List.exists_cons_of_ne_nil numeral.whole_ne_nil
  refine ⟨c, others ++ numeral.places, ?_, ?_⟩
  · rw [unsigned, same, List.cons_append]
  · exact numeral.isAsciiDigit_whole c (same ▸ List.mem_cons_self)

/-- A numeral is split off the start of a text. -/
theorem splitNumeral?_append {rest : List Char} (ends : EndsNumeral rest) :
    splitNumeral? (numeral.text ++ rest) = some (numeral.text, rest) := by
  have split := numeral.splitUnsigned?_append ends
  unfold text sign
  split
  · rw [List.singleton_append, List.cons_append, splitNumeral?]
    simp only [split, Option.map_some]
  · obtain ⟨c, others, same, digit⟩ := numeral.unsigned_eq_cons
    rw [List.nil_append]
    rw [same, List.cons_append] at split ⊢
    rw [splitNumeral?.eq_def]
    split
    · next heq =>
      cases heq
      cases digit
    · exact split

theorem splitLooseNumeral?_append {rest : List Char} (ends : EndsNumeral rest) :
    splitLooseNumeral? (numeral.text ++ rest) = some (numeral.text, rest) :=
  splitLooseNumeral?_of_splitNumeral? (numeral.splitNumeral?_append ends)

/-- A numeral begins with a minus sign or a digit. -/
theorem text_eq_cons :
    ∃ c rest, numeral.text = c :: rest ∧ (c = '-' ∨ isAsciiDigit c = true) := by
  obtain ⟨c, others, same, digit⟩ := numeral.unsigned_eq_cons
  unfold text sign
  split
  · exact ⟨'-', numeral.unsigned, rfl, Or.inl rfl⟩
  · exact ⟨c, others, same, Or.inr digit⟩

/-- The characters of a numeral. -/
theorem mem_text {c : Char} (member : c ∈ numeral.text) :
    c = '-' ∨ c = '.' ∨ isAsciiDigit c = true := by
  rcases List.mem_append.mp member with sign | unsigned
  · unfold Numeral.sign at sign
    split at sign
    · exact .inl (List.mem_singleton.mp sign)
    · cases sign
  · rcases List.mem_append.mp unsigned with whole | places
    · exact .inr (.inr (numeral.isAsciiDigit_whole c whole))
    · unfold Numeral.places at places
      split at places
      · cases places
      · rcases List.mem_cons.mp places with point | fraction
        · exact .inr (.inl point)
        · exact .inr (.inr (numeral.isAsciiDigit_fraction c fraction))

/-- The first numeral of a text that begins with one. -/
theorem findNumeral?_append {rest : List Char} (ends : EndsNumeral rest) :
    findNumeral? (numeral.text ++ rest) = some numeral.text := by
  have split := numeral.splitLooseNumeral?_append ends
  obtain ⟨c, others, same, -⟩ := numeral.text_eq_cons
  rw [same, List.cons_append] at split ⊢
  rw [findNumeral?, split]

theorem splitFirst?_unsigned :
    (splitFirst? '.' numeral.unsigned).getD (numeral.unsigned, []) =
      (numeral.whole, numeral.fraction) := by
  have noPoint : '.' ∉ numeral.whole := by
    intro member
    exact ne_of_isAsciiDigit (numeral.isAsciiDigit_whole _ member) (by decide) rfl
  unfold unsigned places
  split
  · next empty => rw [List.append_nil, splitFirst?_eq_none noPoint, empty, Option.getD_none]
  · rw [splitFirst?_append noPoint, Option.getD_some]

/-- A numeral is read as the number that it denotes. -/
theorem readNumeral?_text : readNumeral? numeral.text = some numeral.value := by
  have digits : digitsValue? (numeral.whole ++ numeral.fraction) =
      some (Nat.ofDigitChars 10 (numeral.whole ++ numeral.fraction) 0) :=
    digitsValue?_eq (List.forall_mem_append.mpr
      ⟨numeral.isAsciiDigit_whole, numeral.isAsciiDigit_fraction⟩)
  unfold text sign value
  cases negative : numeral.negative with
  | true =>
    rw [if_pos rfl, List.singleton_append, readNumeral?]
    simp only [numeral.splitFirst?_unsigned, digits, Option.map_some]
  | false =>
    obtain ⟨c, others, same, digit⟩ := numeral.unsigned_eq_cons
    have split := numeral.splitFirst?_unsigned
    rw [if_neg Bool.false_ne_true, List.nil_append]
    rw [same] at split ⊢
    rw [readNumeral?.eq_def]
    split
    next bodyHeq =>
    split at bodyHeq
    · next heq =>
      cases heq
      cases digit
    · cases bodyHeq
      simp only [split, digits, Option.map_some]

/-- The number written first in a text that begins with a numeral. -/
theorem first?_append {rest : List Char} (ends : EndsNumeral rest) :
    first? (numeral.text ++ rest) = some numeral.value := by
  rw [first?, numeral.findNumeral?_append ends, Option.bind_some, numeral.readNumeral?_text]

theorem first?_text : first? numeral.text = some numeral.value := by
  have read := numeral.first?_append (stops_nil _)
  rwa [List.append_nil] at read

end Numeral

end ViewPreview.Number
