import ViewPreview.Number.Layout
import ViewPreview.Proofs.Number.Integer
import ViewPreview.Proofs.Number.Shortest

/-!
# What the Text of a Number Determines

The text of a number is a numeral with an optional power of ten, and its value is the shortest
decimal of the number.  As no decimal rounds to two numbers, finite numbers that differ have
different texts.
-/

namespace ViewPreview.Number

open ViewPreview.Text

/-! ## The value of a text -/

/-- The power of ten that is written at the end of a numeral. -/
def writtenPower : List Char → ℤ
  | '-' :: digits => -(Nat.ofDigitChars 10 digits 0 : ℤ)
  | '+' :: digits => Nat.ofDigitChars 10 digits 0
  | _ => 0

/-- The value of the digits before and behind a point. -/
def placesSize (whole fraction : List Char) : ℚ :=
  Nat.ofDigitChars 10 (whole ++ fraction) 0 * 10 ^ (-(fraction.length : ℤ))

/-- The value of a numeral without a sign that may have a power of ten. -/
def writtenSize (text : List Char) : ℚ :=
  let (places, power) := (splitFirst? 'e' text).getD (text, [])
  let (whole, fraction) := (splitFirst? '.' places).getD (places, [])
  placesSize whole fraction * 10 ^ writtenPower power

namespace Numeral

variable (numeral : Numeral)

/-- The value of a numeral without its sign. -/
def size : ℚ :=
  placesSize numeral.whole numeral.fraction

theorem e_not_mem_unsigned : 'e' ∉ numeral.unsigned := by
  intro member
  rcases numeral.mem_text (List.mem_append_right _ member) with sign | point | digit
  · cases sign
  · cases point
  · cases digit

theorem writtenSize_unsigned : writtenSize numeral.unsigned = numeral.size := by
  unfold writtenSize
  simp only [splitFirst?_eq_none numeral.e_not_mem_unsigned, Option.getD_none,
    numeral.splitFirst?_unsigned, writtenPower, zpow_zero, mul_one]
  rfl

theorem writtenSize_append_e (power : List Char) :
    writtenSize (numeral.unsigned ++ 'e' :: power) = numeral.size * 10 ^ writtenPower power := by
  unfold writtenSize
  simp only [splitFirst?_append numeral.e_not_mem_unsigned, Option.getD_some,
    numeral.splitFirst?_unsigned]
  rfl

end Numeral

/-- A written power of ten is read back. -/
theorem exists_exponentText_eq (exponent : ℤ) :
    ∃ power, (exponentText exponent).toList = 'e' :: power ∧ writtenPower power = exponent := by
  have padded : Nat.ofDigitChars 10 (if (digitsOf exponent.natAbs).length < 2
      then '0' :: digitsOf exponent.natAbs else digitsOf exponent.natAbs) 0 = exponent.natAbs := by
    split
    · rw [Nat.ofDigitChars_cons]
      exact ofDigitChars_digitsOf _
    · exact ofDigitChars_digitsOf _
  unfold exponentText
  dsimp only
  generalize (if (digitsOf exponent.natAbs).length < 2
    then '0' :: digitsOf exponent.natAbs else digitsOf exponent.natAbs) = digits at *
  split
  · refine ⟨'-' :: digits, by simp, ?_⟩
    rw [writtenPower, padded]
    omega
  · refine ⟨'+' :: digits, by simp, ?_⟩
    rw [writtenPower, padded]
    omega

/-! ## Texts of decimals -/

/-- Whether nothing or a run of zeros behind a point is written at the end of whole numbers. -/
def Layout.EndsInZeros (layout : Layout) : Prop :=
  ∃ count, layout.wholeEnd.toList = if zeros count = [] then [] else '.' :: zeros count

theorem isAsciiDigit_of_mem_zeros {count : ℕ} {c : Char} (member : c ∈ zeros count) :
    isAsciiDigit c = true := by
  rw [List.eq_of_mem_replicate member]
  rfl

theorem ofDigitChars_append_zeros (digits : List Char) (count : ℕ) :
    Nat.ofDigitChars 10 (digits ++ zeros count) 0 = Nat.ofDigitChars 10 digits 0 * 10 ^ count := by
  rw [Nat.ofDigitChars_append, zeros, Nat.ofDigitChars_replicate_zero, mul_comm]

theorem ofDigitChars_zeros_append (count : ℕ) (digits : List Char) :
    Nat.ofDigitChars 10 (zeros count ++ digits) 0 = Nat.ofDigitChars 10 digits 0 := by
  rw [Nat.ofDigitChars_append, zeros, Nat.ofDigitChars_replicate_zero, mul_zero]

/-- Zeros at the end of the places do not change what is written. -/
theorem placesSize_zeros (whole : List Char) (count : ℕ) :
    placesSize whole (zeros count) = Nat.ofDigitChars 10 whole 0 := by
  rw [placesSize, ofDigitChars_append_zeros, zeros, List.length_replicate, zpow_neg, zpow_natCast]
  push_cast
  rw [mul_assoc, mul_inv_cancel₀ (by positivity), mul_one]

/-- The point stands anywhere among the digits and the zeros before them. -/
theorem placesSize_of_append {whole fraction : List Char} (count coefficient : ℕ)
    (same : whole ++ fraction = zeros count ++ digitsOf coefficient) :
    placesSize whole fraction = Decimal.size ⟨coefficient, -(fraction.length : ℤ)⟩ := by
  rw [placesSize, same, ofDigitChars_zeros_append, ofDigitChars_digitsOf]
  rfl

/-- A decimal with all its places is a numeral of its value. -/
theorem exists_numeral_positional {layout : Layout} (ends : layout.EndsInZeros) (d : Decimal) :
    ∃ numeral : Numeral, (layout.positional d).toList = numeral.unsigned ∧
      numeral.size = d.size := by
  obtain ⟨coefficient, exponent⟩ := d
  have nonempty := digitsOf_ne_nil coefficient
  have inDigits (c : Char) (member : c ∈ digitsOf coefficient) : isAsciiDigit c = true :=
    isAsciiDigit_of_mem_digitsOf member
  unfold Layout.positional
  dsimp only
  cases exponent with
  | ofNat e =>
    obtain ⟨count, ending⟩ := ends
    refine ⟨⟨false, digitsOf coefficient ++ zeros e, zeros count,
      List.append_ne_nil_of_left_ne_nil nonempty _,
      List.forall_mem_append.mpr ⟨inDigits, fun _ ↦ isAsciiDigit_of_mem_zeros⟩,
      fun _ ↦ isAsciiDigit_of_mem_zeros⟩, ?_, ?_⟩
    · rw [String.toList_append, String.toList_ofList, ending]
      rfl
    · rw [Numeral.size, placesSize_zeros, ofDigitChars_append_zeros, ofDigitChars_digitsOf]
      simp [Decimal.size]
  | negSucc e =>
    dsimp only
    split
    · next shorter =>
      generalize isSplit : (digitsOf coefficient).length - (e + 1) = front
      have more : (digitsOf coefficient).drop front ≠ [] :=
        List.ne_nil_of_length_pos (by rw [List.length_drop]; omega)
      have same : (digitsOf coefficient).take front ++ (digitsOf coefficient).drop front =
          zeros 0 ++ digitsOf coefficient := List.take_append_drop _ _
      refine ⟨⟨false, (digitsOf coefficient).take front, (digitsOf coefficient).drop front,
        List.ne_nil_of_length_pos (by rw [List.length_take]; omega),
        fun c member ↦ inDigits c (List.mem_of_mem_take member),
        fun c member ↦ inDigits c (List.mem_of_mem_drop member)⟩, ?_, ?_⟩
      · rw [String.toList_ofList, Numeral.unsigned, Numeral.places, if_neg more]
      · rw [Numeral.size, placesSize_of_append 0 coefficient same, List.length_drop, ← isSplit,
          Nat.sub_sub_self shorter.le]
        rfl
    · next longer =>
      have length : (zeros (e + 1 - (digitsOf coefficient).length) ++
          digitsOf coefficient).length = e + 1 := by
        rw [List.length_append, zeros, List.length_replicate]
        omega
      refine ⟨⟨false, ['0'], zeros (e + 1 - (digitsOf coefficient).length) ++ digitsOf coefficient,
        List.cons_ne_nil _ _, List.forall_mem_singleton.mpr rfl,
        List.forall_mem_append.mpr ⟨fun _ ↦ isAsciiDigit_of_mem_zeros, inDigits⟩⟩, ?_, ?_⟩
      · rw [String.toList_ofList, Numeral.unsigned, Numeral.places,
          if_neg (List.append_ne_nil_of_right_ne_nil _ nonempty)]
        rfl
      · rw [Numeral.size, placesSize_of_append (1 + (e + 1 - (digitsOf coefficient).length))
          coefficient (by simp [zeros, List.replicate_add]), length]
        rfl

/-- A decimal with one digit before the point is a numeral with the power of ten that it lacks. -/
theorem exists_numeral_scientific (d : Decimal) : ∃ (numeral : Numeral) (power : List Char),
    (scientific d).toList = numeral.unsigned ++ 'e' :: power ∧
      numeral.size * 10 ^ writtenPower power = d.size := by
  obtain ⟨coefficient, exponent⟩ := d
  obtain ⟨first, rest, digits⟩ := List.exists_cons_of_ne_nil (digitsOf_ne_nil coefficient)
  obtain ⟨inFirst, inRest⟩ := List.forall_mem_cons.mp
    (digits ▸ fun c member ↦ isAsciiDigit_of_mem_digitsOf (n := coefficient) (c := c) member)
  obtain ⟨power, written, value⟩ := exists_exponentText_eq (exponent + rest.length)
  refine ⟨⟨false, [first], rest, List.cons_ne_nil _ _, List.forall_mem_singleton.mpr inFirst,
    inRest⟩, power, ?_, ?_⟩
  · unfold scientific
    simp only [digits]
    rw [String.toList_append, String.toList_ofList, written, Numeral.unsigned, Numeral.places]
    cases rest <;> simp
  · rw [Numeral.size, placesSize_of_append 0 coefficient (by simpa [zeros] using digits.symm),
      value, Decimal.size, Decimal.size, mul_assoc, ← zpow_add₀ (by norm_num)]
    dsimp only
    congr 2
    omega

/-! ## Texts of numbers -/

/-- Whether an unsigned text begins with a digit and has a value. -/
structure Denotes (text : List Char) (q : ℚ) : Prop where
  begins : ∃ c rest, text = c :: rest ∧ isAsciiDigit c = true
  size : writtenSize text = q

namespace Numeral

variable (numeral : Numeral)

theorem denotes_unsigned : Denotes numeral.unsigned numeral.size :=
  ⟨numeral.unsigned_eq_cons, numeral.writtenSize_unsigned⟩

theorem denotes_append_e (power : List Char) :
    Denotes (numeral.unsigned ++ 'e' :: power) (numeral.size * 10 ^ writtenPower power) := by
  obtain ⟨c, rest, same, digit⟩ := numeral.unsigned_eq_cons
  exact ⟨⟨c, rest ++ 'e' :: power, by rw [same, List.cons_append], digit⟩,
    numeral.writtenSize_append_e power⟩

end Numeral

/-- The sign in front of a number. -/
def signChars (negative : Bool) : List Char :=
  if negative then ['-'] else []

/-- The decimal that stands for a binary number in its text. -/
def Layout.writtenDecimal (layout : Layout) (value : Binary) : ℚ :=
  if value.mantissa = 0 then 0 else (value.shortest layout.tie).size

theorem exists_text_eq {layout : Layout} (ends : layout.EndsInZeros) {x : Float} {value : Binary}
    (denotes : denotation x = .finite value) :
    ∃ body, (layout.text x).toList = signChars value.negative ++ body ∧
      Denotes body (layout.writtenDecimal value) := by
  have sign : (if value.negative then "-" else "").toList = signChars value.negative := by
    rw [signChars]
    split <;> rfl
  unfold Layout.text Layout.writtenDecimal
  simp only [denotes, beq_iff_eq]
  split
  · obtain ⟨count, ending⟩ := ends
    let numeral : Numeral :=
      ⟨false, ['0'], zeros count, List.cons_ne_nil _ _, List.forall_mem_singleton.mpr rfl,
        fun _ ↦ isAsciiDigit_of_mem_zeros⟩
    have zero : numeral.size = 0 := by
      rw [Numeral.size, placesSize_zeros]
      rfl
    refine ⟨numeral.unsigned, ?_, zero ▸ numeral.denotes_unsigned⟩
    rw [String.toList_append, String.toList_append, sign, ending, List.append_assoc]
    rfl
  · rw [String.toList_append, sign]
    split
    · obtain ⟨numeral, written, size⟩ := exists_numeral_positional ends (value.shortest layout.tie)
      exact ⟨_, rfl, written ▸ size ▸ numeral.denotes_unsigned⟩
    · obtain ⟨numeral, power, written, size⟩ :=
        exists_numeral_scientific (value.shortest layout.tie)
      exact ⟨_, rfl, written ▸ size ▸ numeral.denotes_append_e power⟩

/-- A sign is told from what begins with a digit. -/
theorem signChars_inj {negative other : Bool} {body rest : List Char} {q r : ℚ}
    (denotes : Denotes body q) (denotes' : Denotes rest r)
    (same : signChars negative ++ body = signChars other ++ rest) :
    negative = other ∧ body = rest := by
  obtain ⟨c, front, rfl, digit⟩ := denotes.begins
  obtain ⟨d, back, rfl, digit'⟩ := denotes'.begins
  cases negative <;> cases other
  case false.true =>
    cases same
    cases digit
  case true.false =>
    cases same
    cases digit'
  case false.false => exact ⟨rfl, same⟩
  case true.true => exact ⟨rfl, List.tail_eq_of_cons_eq same⟩

theorem Binary.eq_of_writtenDecimal {layout : Layout} {value other : Binary}
    (canonical : value.IsCanonical) (canonical' : other.IsCanonical)
    (sameSign : value.negative = other.negative)
    (same : layout.writtenDecimal value = layout.writtenDecimal other) : value = other := by
  have rounds {value : Binary} (canonical : value.IsCanonical) (nonzero : value.mantissa ≠ 0) :
      value.Rounds (value.shortest layout.tie).size :=
    rounds_shortest canonical (Nat.pos_of_ne_zero nonzero) layout.tie
  have positive {value : Binary} (canonical : value.IsCanonical) (nonzero : value.mantissa ≠ 0) :
      (value.shortest layout.tie).size ≠ 0 :=
    (pos_of_rounds (Nat.pos_of_ne_zero nonzero) (rounds canonical nonzero)).ne'
  unfold Layout.writtenDecimal at same
  split at same <;> split at same
  · next zero zero' =>
    have least {value : Binary} (canonical : value.IsCanonical) (zero : value.mantissa = 0) :
        value.exponent = -1074 := by
      have := canonical.least_le
      have := canonical.le_mantissa
      omega
    exact canonical.eq canonical' sameSign (zero.trans zero'.symm)
      ((least canonical zero).trans (least canonical' zero').symm)
  · next nonzero => exact absurd same.symm (positive canonical' nonzero)
  · next nonzero _ => exact absurd same (positive canonical nonzero)
  · next nonzero nonzero' =>
    exact eq_of_rounds canonical canonical' sameSign (rounds canonical nonzero)
      (same ▸ rounds canonical' nonzero')

/-- Finite numbers with one text are the same. -/
theorem Layout.text_inj {layout : Layout} (ends : layout.EndsInZeros) {x y : Float}
    (firstFinite : isFinite x = true) (secondFinite : isFinite y = true)
    (same : layout.text x = layout.text y) : x = y := by
  obtain ⟨value, first⟩ := exists_denotes firstFinite
  obtain ⟨other, second⟩ := exists_denotes secondFinite
  obtain ⟨body, firstText, denotes⟩ := exists_text_eq ends first
  obtain ⟨rest, secondText, denotes'⟩ := exists_text_eq ends second
  rw [same, secondText] at firstText
  obtain ⟨sameSign, rfl⟩ := signChars_inj denotes' denotes firstText
  have sameDecimal := denotes.size.symm.trans denotes'.size
  obtain rfl := Binary.eq_of_writtenDecimal (isCanonical_of_denotes first)
    (isCanonical_of_denotes second) sameSign.symm sameDecimal
  exact denotation_inj first second

end ViewPreview.Number
