import ViewPreview.Proofs.Text.Identifier

/-!
# Words and Blanks

No blank is a word character, in any script, so a word ends where a blank begins.  Whether a text
ends inside a word is told by its last character.
-/

namespace ViewPreview.Text

/-! ## Blanks are no word characters -/

/-- Whether the code points of a range beyond ASCII all lie between two neighbouring blanks. -/
def liesBetweenBlanks (range : Nat × Nat) : Bool :=
  range.2 < 0x85 || (0x85 < range.1 && range.2 < 0xA0) || (0xA0 < range.1 && range.2 < 0x1680) ||
    (0x1680 < range.1 && range.2 < 0x2000) || (0x200A < range.1 && range.2 < 0x2028) ||
    (0x202F < range.1 && range.2 < 0x205F) || (0x205F < range.1 && range.2 < 0x3000) ||
    0x3000 < range.1

set_option maxRecDepth 8000 in
theorem liesBetweenBlanks_alphabetic : alphabeticRanges.all liesBetweenBlanks = true := by
  decide

theorem liesBetweenBlanks_decimalDigit : decimalDigitRanges.all liesBetweenBlanks = true := by
  decide

set_option maxRecDepth 8000 in
theorem liesBetweenBlanks_joining : joiningRanges.all liesBetweenBlanks = true := by
  decide

theorem inRanges_of_isBlank {table : List (Nat × Nat)} (apart : table.all liesBetweenBlanks = true)
    {c : Char} (blank : isBlank c = true) (beyond : 128 ≤ c.toNat) :
    inRanges table c.toNat = false := by
  rw [Bool.eq_false_iff]
  intro member
  obtain ⟨range, inTable, inside⟩ := List.any_eq_true.mp member
  have between := List.all_eq_true.mp apart range inTable
  unfold isBlank at blank
  unfold liesBetweenBlanks at between
  simp only [Bool.or_eq_true, Bool.and_eq_true, decide_eq_true_eq, beq_iff_eq]
    at blank inside between
  omega

theorem not_isWord_of_isBlank {c : Char} (blank : isBlank c = true) : isWord c = false := by
  unfold isWord
  split
  · exact not_isIdentifierPart_of_isBlank blank
  · next beyond =>
    unfold isAlphabetic isDigit
    have large : 128 ≤ c.toNat := Nat.le_of_not_lt beyond
    rw [if_neg beyond, if_neg beyond, inRanges_of_isBlank liesBetweenBlanks_alphabetic blank large,
      inRanges_of_isBlank liesBetweenBlanks_decimalDigit blank large,
      inRanges_of_isBlank liesBetweenBlanks_joining blank large]
    rfl

theorem isWord_of_isDigit {c : Char} (digit : isDigit c = true) : isWord c = true := by
  unfold isDigit at digit
  unfold isWord isDigit
  split
  · next small =>
    rw [if_pos small] at digit
    rw [digit, Bool.or_true, Bool.true_or]
  · next beyond =>
    rw [if_neg beyond] at digit
    rw [digit, Bool.or_true, Bool.true_or]

/-! ## The end of a text -/

/-- Whether a text ends inside a word. -/
def endsInWord (text : List Char) : Bool :=
  text.getLast?.any isWord

theorem endsInWord_append_singleton (text : List Char) (c : Char) :
    endsInWord (text ++ [c]) = isWord c := by
  rw [endsInWord, List.getLast?_concat]
  rfl

end ViewPreview.Text
