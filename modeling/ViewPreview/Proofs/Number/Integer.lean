import ViewPreview.Proofs.Number.Numeral

/-!
# Texts of Integers

The text of an integer is a run of ASCII digits with a minus sign in front of a negative one.  An
integer may also be written with zeros in front of its digits, and the texts that are read as an
integer are those written for one of 64 bits.
-/

namespace ViewPreview.Number

open ViewPreview.Text

/-! ## Digits of natural numbers -/

theorem digitsOf_ne_nil (n : Nat) : digitsOf n ≠ [] :=
  Nat.toDigits_ne_nil

theorem isAsciiDigit_of_mem_digitsOf {n : Nat} {c : Char} (member : c ∈ digitsOf n) :
    isAsciiDigit c = true := by
  have digit : c.isDigit = true := Nat.isDigit_of_mem_toDigits (by decide) (by decide) member
  rw [isAsciiDigit_iff]
  simp only [Char.isDigit, Bool.and_eq_true, decide_eq_true_eq, ge_iff_le,
    UInt32.le_iff_toNat_le] at digit
  exact digit

theorem ofDigitChars_digitsOf (n : Nat) : Nat.ofDigitChars 10 (digitsOf n) 0 = n :=
  Nat.ofDigitChars_ten_toDigits

theorem digitsValue?_digitsOf (n : Nat) : digitsValue? (digitsOf n) = some n := by
  rw [digitsValue?_eq fun _ member ↦ isAsciiDigit_of_mem_digitsOf member]
  exact congrArg some (ofDigitChars_digitsOf n)

/-! ## Integers as they may be written -/

/-- Whether a text of ASCII digits, with a minus sign or without, is written for an integer.  There
may be zeros in front of the digits. -/
inductive WritesInteger : List Char → Int → Prop
  | natural {digits : List Char} (nonempty : digits ≠ [])
      (ascii : ∀ c ∈ digits, isAsciiDigit c = true) :
      WritesInteger digits (Nat.ofDigitChars 10 digits 0)
  | negative {digits : List Char} (nonempty : digits ≠ [])
      (ascii : ∀ c ∈ digits, isAsciiDigit c = true) :
      WritesInteger ('-' :: digits) (-(Nat.ofDigitChars 10 digits 0 : Int))

theorem minus_not_mem_of_ascii {digits : List Char} (ascii : ∀ c ∈ digits, isAsciiDigit c = true) :
    '-' ∉ digits := fun member ↦ ne_of_isAsciiDigit (ascii '-' member) (by decide) rfl

/-- The characters of a written integer. -/
theorem WritesInteger.mem {text : List Char} {n : Int} (writes : WritesInteger text n) {c : Char}
    (member : c ∈ text) : c = '-' ∨ isAsciiDigit c = true := by
  cases writes with
  | natural nonempty ascii => exact .inr (ascii c member)
  | negative nonempty ascii =>
    rcases List.mem_cons.mp member with sign | digit
    · exact .inl sign
    · exact .inr (ascii c digit)

theorem WritesInteger.ne_nil {text : List Char} {n : Int} (writes : WritesInteger text n) :
    text ≠ [] := by
  cases writes with
  | natural nonempty ascii => exact nonempty
  | negative nonempty ascii => exact List.cons_ne_nil _ _

/-- A text is written for one integer only. -/
theorem WritesInteger.unique {text : List Char} {m n : Int} (first : WritesInteger text m)
    (second : WritesInteger text n) : m = n := by
  cases first with
  | natural nonempty ascii =>
    cases second with
    | natural _ _ => rfl
    | negative _ _ => exact absurd List.mem_cons_self (minus_not_mem_of_ascii ascii)
  | negative nonempty ascii =>
    cases second with
    | natural _ other => exact absurd List.mem_cons_self (minus_not_mem_of_ascii other)
    | negative _ _ => rfl

/-! ## Integers as they are written -/

/-- The characters of the text of an integer. -/
def integerChars (n : Int) : List Char :=
  (integerText n).toList

theorem integerChars_ofNat (k : Nat) : integerChars (.ofNat k) = digitsOf k :=
  String.toList_ofList

theorem integerChars_negSucc (k : Nat) : integerChars (.negSucc k) = '-' :: digitsOf (k + 1) := by
  rw [integerChars, integerText, String.toList_append]
  exact congrArg (List.cons '-') String.toList_ofList

theorem writesInteger_integerChars (n : Int) : WritesInteger (integerChars n) n := by
  have ascii (k : Nat) : ∀ c ∈ digitsOf k, isAsciiDigit c = true := fun _ member ↦
    isAsciiDigit_of_mem_digitsOf member
  cases n with
  | ofNat k =>
    have natural := WritesInteger.natural (digitsOf_ne_nil k) (ascii k)
    rwa [ofDigitChars_digitsOf, ← integerChars_ofNat] at natural
  | negSucc k =>
    have negative := WritesInteger.negative (digitsOf_ne_nil (k + 1)) (ascii (k + 1))
    rwa [ofDigitChars_digitsOf, ← integerChars_negSucc] at negative

theorem mem_integerChars {n : Int} {c : Char} (member : c ∈ integerChars n) :
    c = '-' ∨ isAsciiDigit c = true :=
  (writesInteger_integerChars n).mem member

theorem integerChars_ne_nil (n : Int) : integerChars n ≠ [] :=
  (writesInteger_integerChars n).ne_nil

/-- The text of an integer begins with a minus sign or a digit. -/
theorem integerChars_eq_cons (n : Int) :
    ∃ c rest, integerChars n = c :: rest ∧ (c = '-' ∨ isAsciiDigit c = true) := by
  obtain ⟨c, rest, same⟩ := List.exists_cons_of_ne_nil (integerChars_ne_nil n)
  exact ⟨c, rest, same, mem_integerChars (same ▸ List.mem_cons_self)⟩

/-- The text of an integer tells the integer. -/
theorem integerChars_inj {m n : Int} (same : integerChars m = integerChars n) : m = n := by
  have writes := writesInteger_integerChars n
  rw [← same] at writes
  exact (writesInteger_integerChars m).unique writes

/-- An integer as a numeral. -/
def integerNumeral : Int → Numeral
  | .ofNat k =>
    ⟨false, digitsOf k, [], digitsOf_ne_nil k, fun _ member ↦ isAsciiDigit_of_mem_digitsOf member,
      List.forall_mem_nil _⟩
  | .negSucc k =>
    ⟨true, digitsOf (k + 1), [], digitsOf_ne_nil _,
      fun _ member ↦ isAsciiDigit_of_mem_digitsOf member, List.forall_mem_nil _⟩

theorem text_integerNumeral (n : Int) : (integerNumeral n).text = integerChars n := by
  cases n with
  | ofNat k =>
    rw [integerChars_ofNat]
    exact List.append_nil (digitsOf k)
  | negSucc k =>
    rw [integerChars_negSucc]
    exact congrArg (List.cons '-') (List.append_nil (digitsOf (k + 1)))

/-! ## Reading integers -/

section Reading

variable {digits : List Char} {k : Nat}

theorem readInteger?_natural (nonempty : digits ≠ []) (noSign : '-' ∉ digits)
    (value : digitsValue? digits = some k) (greatest : (k : Int) ≤ Int64.maxValue.toInt) :
    readInteger? digits = some (k : Int) := by
  have least : Int64.minValue.toInt ≤ (k : Int) :=
    Int.le_trans (by decide) (Int.natCast_nonneg k)
  have inRange : (decide (Int64.minValue.toInt ≤ (k : Int)) &&
      decide ((k : Int) ≤ Int64.maxValue.toInt)) = true := by
    rw [Bool.and_eq_true, decide_eq_true_eq, decide_eq_true_eq]
    exact ⟨least, greatest⟩
  obtain ⟨c, rest, rfl⟩ := List.exists_cons_of_ne_nil nonempty
  rw [readInteger?.eq_def]
  split
  next bodyHeq =>
  split at bodyHeq
  · next heq =>
    cases heq
    exact absurd List.mem_cons_self noSign
  · cases bodyHeq
    rw [if_neg (by simp), value, Option.bind_some]
    exact if_pos inRange

theorem readInteger?_negative (nonempty : digits ≠ []) (value : digitsValue? digits = some k)
    (least : Int64.minValue.toInt ≤ -(k : Int)) :
    readInteger? ('-' :: digits) = some (-(k : Int)) := by
  have greatest : -(k : Int) ≤ Int64.maxValue.toInt :=
    Int.le_trans (Int.neg_nonpos_of_nonneg (Int.natCast_nonneg k)) (by decide)
  have inRange : (decide (Int64.minValue.toInt ≤ -(k : Int)) &&
      decide (-(k : Int) ≤ Int64.maxValue.toInt)) = true := by
    rw [Bool.and_eq_true, decide_eq_true_eq, decide_eq_true_eq]
    exact ⟨least, greatest⟩
  have nonempty : digits.isEmpty = false :=
    Bool.eq_false_iff.mpr fun empty ↦ nonempty (List.isEmpty_iff.mp empty)
  rw [readInteger?]
  simp only [nonempty, Bool.false_eq_true, if_false, value, Option.bind_some]
  exact if_pos inRange

end Reading

/-- Only ASCII digits have a value. -/
theorem isAsciiDigit_of_foldlM_digitValue? {digits : List Char} {total value : Nat}
    (read : digits.foldlM (fun total c ↦ (digitValue? c).map (10 * total + ·)) total = some value) :
    ∀ c ∈ digits, isAsciiDigit c = true := by
  induction digits generalizing total with
  | nil => exact List.forall_mem_nil _
  | cons c digits ih =>
    rw [List.foldlM_cons, Option.bind_eq_bind, Option.bind_eq_some_iff] at read
    obtain ⟨first, here, later⟩ := read
    refine List.forall_mem_cons.mpr ⟨?_, ih later⟩
    rw [digitValue?] at here
    split at here
    · next ascii => exact ascii
    · cases here

theorem digitsValue?_eq_some_iff {digits : List Char} {k : Nat} :
    digitsValue? digits = some k ↔
      (∀ c ∈ digits, isAsciiDigit c = true) ∧ Nat.ofDigitChars 10 digits 0 = k := by
  constructor
  · intro read
    have ascii := isAsciiDigit_of_foldlM_digitValue? read
    rw [digitsValue?_eq ascii] at read
    exact ⟨ascii, Option.some.inj read⟩
  · rintro ⟨ascii, rfl⟩
    exact digitsValue?_eq ascii

/-- The texts that are read as an integer are those written for one of 64 bits. -/
theorem readInteger?_eq_some_iff {text : List Char} {n : Int} :
    readInteger? text = some n ↔
      WritesInteger text n ∧ Int64.minValue.toInt ≤ n ∧ n ≤ Int64.maxValue.toInt := by
  constructor
  · intro read
    rw [readInteger?.eq_def] at read
    split at read
    next negative body parts =>
    split at read
    · cases read
    · next nonempty =>
      obtain ⟨k, value, inside⟩ := Option.bind_eq_some_iff.mp read
      obtain ⟨bounds, written⟩ := Option.ite_none_right_eq_some.mp inside
      rw [Bool.and_eq_true, decide_eq_true_eq, decide_eq_true_eq] at bounds
      rw [Option.some.inj written] at bounds
      refine ⟨?_, bounds⟩
      obtain ⟨ascii, rfl⟩ := digitsValue?_eq_some_iff.mp value
      have visible : body ≠ [] := fun empty ↦ nonempty (List.isEmpty_iff.mpr empty)
      rw [← Option.some.inj written]
      split at parts
      · cases parts
        exact .negative visible ascii
      · cases parts
        exact .natural visible ascii
  · rintro ⟨writes, least, greatest⟩
    cases writes with
    | natural nonempty ascii =>
      exact readInteger?_natural nonempty (minus_not_mem_of_ascii ascii) (digitsValue?_eq ascii)
        greatest
    | negative nonempty ascii => exact readInteger?_negative nonempty (digitsValue?_eq ascii) least

/-- An integer of 64 bits is read back from its text. -/
theorem readInteger?_integerChars {n : Int} (least : Int64.minValue.toInt ≤ n)
    (greatest : n ≤ Int64.maxValue.toInt) : readInteger? (integerChars n) = some n :=
  readInteger?_eq_some_iff.mpr ⟨writesInteger_integerChars n, least, greatest⟩

/-- A written integer is read exactly if it fits into 64 bits. -/
theorem isSome_readInteger?_iff {text : List Char} {n : Int} (writes : WritesInteger text n) :
    (readInteger? text).isSome = true ↔
      Int64.minValue.toInt ≤ n ∧ n ≤ Int64.maxValue.toInt := by
  rw [Option.isSome_iff_exists]
  constructor
  · rintro ⟨m, read⟩
    obtain ⟨other, bounds⟩ := readInteger?_eq_some_iff.mp read
    rwa [other.unique writes] at bounds
  · intro bounds
    exact ⟨n, readInteger?_eq_some_iff.mpr ⟨writes, bounds⟩⟩

end ViewPreview.Number
