import ViewPreview.Proofs.Call.Literal
import ViewPreview.Proofs.Text.Word

/-!
# Range Literals

A range literal is two integers with a range operator between them, with or without blanks around
the operator, in any number of pairs of parentheses with blanks around each.  The texts that are
read as a range are exactly these, as far as the integers fit into 64 bits; a literal with digits of
another script is found and then not read.
-/

namespace ViewPreview.Call

open ViewPreview.Text ViewPreview.Number

/-! ## Blanks and parentheses around a text -/

/-- A text in any number of pairs of parentheses, with blanks around it and around each pair. -/
inductive Enclosed (core : List Char) : List Char → Prop
  | bare {before after : List Char} (blankBefore : ∀ c ∈ before, isBlank c = true)
      (blankAfter : ∀ c ∈ after, isBlank c = true) : Enclosed core (before ++ (core ++ after))
  | parentheses {before inner after : List Char} (blankBefore : ∀ c ∈ before, isBlank c = true)
      (blankAfter : ∀ c ∈ after, isBlank c = true) (inside : Enclosed core inner) :
      Enclosed core (before ++ ('(' :: (inner ++ [')']) ++ after))

section Enclosed

variable {core text : List Char}

theorem dropParentheses_eq_some_iff {inner : List Char} :
    (dropStart? ['('] text).bind (dropFinish? [')']) = some inner ↔
      text = '(' :: (inner ++ [')']) := by
  constructor
  · intro found
    obtain ⟨behind, opened, closed⟩ := Option.bind_eq_some_iff.mp found
    rw [← append_of_dropStart? opened, ← append_of_dropFinish? closed]
    rfl
  · intro shape
    rw [shape, dropStart?_singleton.mpr rfl]
    exact dropFinish?_append inner [')']

/-- A text is what is left of it in the parentheses and blanks that are removed. -/
theorem enclosed_stripParentheses (limit : Nat) (text : List Char) :
    Enclosed (stripParentheses limit (trim text)) text := by
  induction limit generalizing text with
  | zero =>
    obtain ⟨before, after, shape, blankBefore, blankAfter⟩ := exists_blanks_trim text
    have bare : Enclosed (trim text) (before ++ (trim text ++ after)) :=
      .bare blankBefore blankAfter
    rwa [← shape] at bare
  | succ limit ih =>
    obtain ⟨before, after, shape, blankBefore, blankAfter⟩ := exists_blanks_trim text
    rw [stripParentheses]
    split
    · next inner found =>
      have inside : Enclosed (stripParentheses limit (trim inner))
          (before ++ ('(' :: (inner ++ [')']) ++ after)) :=
        .parentheses blankBefore blankAfter (ih inner)
      rwa [← dropParentheses_eq_some_iff.mp found, ← shape] at inside
    · have bare : Enclosed (trim text) (before ++ (trim text ++ after)) :=
        .bare blankBefore blankAfter
      rwa [← shape] at bare

theorem stripParentheses_eq_self {c : Char} {rest : List Char} (limit : Nat) (other : c ≠ '(') :
    stripParentheses limit (c :: rest) = c :: rest := by
  cases limit with
  | zero => rfl
  | succ limit =>
    rw [stripParentheses, dropStart?_cons_eq_none fun same ↦ other same.symm]
    rfl

/-- A text that begins with no parenthesis is what is left when all around it is removed. -/
theorem Enclosed.stripParentheses_eq {c : Char} {rest : List Char} {limit : Nat}
    (enclosed : Enclosed (c :: rest) text) (trimmed : Trimmed (c :: rest)) (other : c ≠ '(')
    (enough : text.length ≤ limit) : stripParentheses limit (trim text) = c :: rest := by
  induction enclosed generalizing limit with
  | bare blankBefore blankAfter =>
    rw [trimmed.trim_append (List.cons_ne_nil c rest) blankBefore blankAfter]
    exact stripParentheses_eq_self limit other
  | @parentheses before inner after blankBefore blankAfter _ ih =>
    have around : Trimmed ('(' :: (inner ++ [')'])) :=
      trimmed_enclosed inner (by decide) (by decide)
    simp only [List.length_append, List.length_cons] at enough
    obtain ⟨less, rfl⟩ : ∃ less, limit = less + 1 := ⟨limit - 1, by omega⟩
    rw [around.trim_append (List.cons_ne_nil _ _) blankBefore blankAfter, stripParentheses,
      dropParentheses_eq_some_iff.mpr rfl]
    exact ih (by omega)

/-- The characters of an enclosed text. -/
theorem Enclosed.mem (enclosed : Enclosed core text) {c : Char} (member : c ∈ text) :
    isBlank c = true ∨ c ∈ ['(', ')'] ∨ c ∈ core := by
  induction enclosed with
  | bare blankBefore blankAfter =>
    simp only [List.mem_append] at member
    rcases member with before | inside | after
    · exact .inl (blankBefore c before)
    · exact .inr (.inr inside)
    · exact .inl (blankAfter c after)
  | parentheses blankBefore blankAfter _ ih =>
    simp only [List.mem_append, List.mem_cons, List.not_mem_nil, or_false] at member
    rcases member with before | (opening | inside | closing) | after
    · exact .inl (blankBefore c before)
    · exact .inr (.inl (opening ▸ List.mem_cons_self))
    · exact ih inside
    · exact .inr (.inl (closing ▸ List.mem_cons_of_mem _ List.mem_cons_self))
    · exact .inl (blankAfter c after)

end Enclosed

/-! ## Integers and operators -/

theorem not_isDigit_of_isBlank {c : Char} (blank : isBlank c = true) : isDigit c = false := by
  rw [Bool.eq_false_iff]
  intro digit
  have word := isWord_of_isDigit digit
  rw [not_isWord_of_isBlank blank] at word
  exact Bool.noConfusion word

theorem splitInteger?_natural {digits rest : List Char} (all : ∀ c ∈ digits, isDigit c = true)
    (nonempty : digits ≠ []) (noSign : '-' ∉ digits) (stops : Stops isDigit rest) :
    splitInteger? (digits ++ rest) = some (digits, rest) := by
  have run := takeWhile_append_of_stops all stops
  have after := dropWhile_append_of_stops all stops
  obtain ⟨c, others, rfl⟩ := List.exists_cons_of_ne_nil nonempty
  rw [List.cons_append] at run after ⊢
  rw [splitInteger?.eq_def]
  split
  next bodyHeq =>
  split at bodyHeq
  · next heq =>
    cases heq
    exact absurd List.mem_cons_self noSign
  · cases bodyHeq
    simp only [run, after, List.isEmpty_cons, Bool.false_eq_true, if_false, List.nil_append]

/-- A text written for an integer is split off the start of a text in which no digit follows it. -/
theorem splitInteger?_of_writesInteger {numeral rest : List Char} {n : Int}
    (writes : WritesInteger numeral n) (stops : Stops isDigit rest) :
    splitInteger? (numeral ++ rest) = some (numeral, rest) := by
  cases writes with
  | natural nonempty ascii =>
    have digit : ∀ c ∈ numeral, isDigit c = true := fun c member ↦
      isDigit_of_isAsciiDigit (ascii c member)
    exact splitInteger?_natural digit nonempty (minus_not_mem_of_ascii ascii) stops
  | @negative digits nonempty ascii =>
    have digit : ∀ c ∈ digits, isDigit c = true := fun c member ↦
      isDigit_of_isAsciiDigit (ascii c member)
    have run := takeWhile_append_of_stops digit stops
    have after := dropWhile_append_of_stops digit stops
    have visible : digits.isEmpty = false := by
      rw [Bool.eq_false_iff]
      exact fun empty ↦ nonempty (List.isEmpty_iff.mp empty)
    rw [List.cons_append, splitInteger?]
    simp only [run, after, visible, Bool.false_eq_true, if_false, List.singleton_append]

theorem append_of_splitInteger? {text numeral rest : List Char}
    (split : splitInteger? text = some (numeral, rest)) : text = numeral ++ rest := by
  rw [splitInteger?.eq_def] at split
  split at split
  next sign body parts =>
  have found := (Option.ite_none_left_eq_some.mp split).2
  cases found
  rw [List.append_assoc, List.takeWhile_append_dropWhile]
  split at parts
  · cases parts
    rfl
  · cases parts
    rfl

theorem splitRangeOperator?_eq_some_iff {text rest : List Char} {inclusive : Bool} :
    splitRangeOperator? text = some (inclusive, rest) ↔ text = rangeOperator inclusive ++ rest := by
  constructor
  · intro split
    rw [splitRangeOperator?.eq_def] at split
    split at split
    · cases split
      rfl
    · cases split
      rfl
    · cases split
  · rintro rfl
    cases inclusive with
    | false => rfl
    | true => rfl

theorem trimStart_append_rangeOperator {before : List Char} (inclusive : Bool)
    (blank : ∀ c ∈ before, isBlank c = true) (rest : List Char) :
    trimStart (before ++ (rangeOperator inclusive ++ rest)) = rangeOperator inclusive ++ rest := by
  cases inclusive with
  | false => exact dropWhile_append_of_stops blank (stops_cons.mpr (by decide))
  | true => exact dropWhile_append_of_stops blank (stops_cons.mpr (by decide))

/-! ## Ranges as they may be written -/

/-- Two integers with a range operator between them and blanks around the operator. -/
def spacedRange (start before : List Char) (inclusive : Bool) (after stop : List Char) :
    List Char :=
  start ++ (before ++ (rangeOperator inclusive ++ (after ++ stop)))

/-- Whether a text is written for a range. -/
inductive WritesRange (range : IntegerRange) : List Char → Prop
  | literal {start stop before after text : List Char}
      (writesStart : WritesInteger start range.start.toInt)
      (writesStop : WritesInteger stop range.stop.toInt)
      (blankBefore : ∀ c ∈ before, isBlank c = true) (blankAfter : ∀ c ∈ after, isBlank c = true)
      (enclosed : Enclosed (spacedRange start before range.inclusive after stop) text) :
      WritesRange range text

section Reading

variable {start stop before after text : List Char} {m n : Int} {inclusive : Bool}
  {range : IntegerRange}

theorem not_isBlank_of_writesInteger (writes : WritesInteger start m) {c : Char}
    (member : c ∈ start) : isBlank c = false := by
  rcases writes.mem member with rfl | digit
  · decide
  · exact not_isBlank_of_isTokenPart (isTokenPart_of_isAsciiDigit digit)

theorem trimmed_spacedRange (writesStart : WritesInteger start m)
    (writesStop : WritesInteger stop n) :
    Trimmed (spacedRange start before inclusive after stop) := by
  have trimmed : Trimmed start :=
    trimmed_of_forall fun _ member ↦ not_isBlank_of_writesInteger writesStart member
  apply trimmed.append writesStart.ne_nil
  intro c member
  rw [← List.append_assoc, ← List.append_assoc, List.getLast?_append, Option.mem_def,
    Option.or_eq_some_iff, List.getLast?_eq_none_iff] at member
  rcases member with inside | ⟨empty, -⟩
  · exact not_isBlank_of_writesInteger writesStop (List.mem_of_mem_getLast? inside)
  · exact absurd empty writesStop.ne_nil

/-- What is read of an enclosed range is what its integers are read as. -/
theorem range?_of_enclosed (writesStart : WritesInteger start m) (writesStop : WritesInteger stop n)
    (blankBefore : ∀ c ∈ before, isBlank c = true) (blankAfter : ∀ c ∈ after, isBlank c = true)
    (enclosed : Enclosed (spacedRange start before inclusive after stop) text) :
    range? text = (readInteger? start).bind fun first ↦ (readInteger? stop).bind fun last ↦
      some ⟨Int64.ofInt first, Int64.ofInt last, inclusive⟩ := by
  have trimmed : Trimmed (spacedRange start before inclusive after stop) :=
    trimmed_spacedRange writesStart writesStop
  have bare : stripParentheses text.length (trim text) =
      spacedRange start before inclusive after stop := by
    obtain ⟨c, rest, same⟩ := List.exists_cons_of_ne_nil writesStart.ne_nil
    have other : c ≠ '(' := by
      rcases writesStart.mem (same ▸ List.mem_cons_self) with rfl | digit
      · decide
      · exact ne_of_isAsciiDigit digit (by decide)
    rw [spacedRange, same] at enclosed trimmed ⊢
    exact enclosed.stripParentheses_eq trimmed other (Nat.le_refl _)
  have operatorStops : Stops isDigit (before ++ (rangeOperator inclusive ++ (after ++ stop))) := by
    apply stops_append fun c member ↦ not_isDigit_of_isBlank (blankBefore c member)
    cases inclusive with
    | false => exact stops_cons.mpr (by decide)
    | true => exact stops_cons.mpr (by decide)
  have lastStart : trimStart (after ++ stop) = stop := by
    apply dropWhile_append_of_stops blankAfter
    exact fun c member ↦ not_isBlank_of_writesInteger writesStop (List.mem_of_mem_head? member)
  have last : splitInteger? stop = some (stop, []) := by
    have split := splitInteger?_of_writesInteger writesStop (stops_nil _)
    rwa [List.append_nil] at split
  rw [range?, bare, spacedRange]
  simp only [splitInteger?_of_writesInteger writesStart operatorStops,
    trimStart_append_rangeOperator inclusive blankBefore, splitRangeOperator?_eq_some_iff.mpr rfl,
    lastStart, last, List.isEmpty_nil, if_true, Option.bind_eq_bind, Option.bind_some]

theorem toInt_ofInt_of_bounds (least : Int64.minValue.toInt ≤ n)
    (greatest : n ≤ Int64.maxValue.toInt) : (Int64.ofInt n).toInt = n := by
  have bounds : Int64.minValue.toInt = -2 ^ 63 ∧ Int64.maxValue.toInt = 2 ^ 63 - 1 := by decide
  apply Int64.toInt_ofInt_of_le
  · omega
  · omega

/-- A text that is read as a range is written for it. -/
theorem writesRange_of_range? (read : range? text = some range) : WritesRange range text := by
  have enclosed := enclosed_stripParentheses text.length text
  rw [range?] at read
  generalize stripParentheses text.length (trim text) = core at read enclosed
  simp only [Option.bind_eq_bind, Option.bind_eq_some_iff, Prod.exists] at read
  obtain ⟨start, afterStart, splitStart, inclusive, afterOperator, splitOperator, stop, rest,
    splitStop, bounds⟩ := read
  rw [Option.ite_none_right_eq_some, List.isEmpty_iff] at bounds
  obtain ⟨rfl, integers⟩ := bounds
  obtain ⟨first, readFirst, others⟩ := Option.bind_eq_some_iff.mp integers
  obtain ⟨last, readLast, whole⟩ := Option.bind_eq_some_iff.mp others
  cases whole
  obtain ⟨writesStart, startLeast, startGreatest⟩ := readInteger?_eq_some_iff.mp readFirst
  obtain ⟨writesStop, stopLeast, stopGreatest⟩ := readInteger?_eq_some_iff.mp readLast
  obtain ⟨before, beforeOperator, blankBefore⟩ := exists_blanks_trimStart afterStart
  obtain ⟨after, beforeStop, blankAfter⟩ := exists_blanks_trimStart afterOperator
  have shape : core = spacedRange start before inclusive after stop := by
    calc core
      _ = start ++ (before ++ trimStart afterStart) := by
        rw [append_of_splitInteger? splitStart, ← beforeOperator]
      _ = start ++ (before ++ (rangeOperator inclusive ++ (after ++ trimStart afterOperator))) := by
        rw [splitRangeOperator?_eq_some_iff.mp splitOperator, ← beforeStop]
      _ = spacedRange start before inclusive after stop := by
        rw [append_of_splitInteger? splitStop, List.append_nil]
        rfl
  rw [← toInt_ofInt_of_bounds startLeast startGreatest] at writesStart
  rw [← toInt_ofInt_of_bounds stopLeast stopGreatest] at writesStop
  rw [shape] at enclosed
  exact .literal writesStart writesStop blankBefore blankAfter enclosed

theorem readInteger?_of_writesInteger {bound : Int64} (writes : WritesInteger text bound.toInt) :
    readInteger? text = some bound.toInt :=
  readInteger?_eq_some_iff.mpr ⟨writes, bound.minValue_le_toInt, bound.toInt_le⟩

/-- The texts that are read as a range are those written for it. -/
theorem range?_eq_some_iff : range? text = some range ↔ WritesRange range text := by
  constructor
  · exact writesRange_of_range?
  · rintro ⟨writesStart, writesStop, blankBefore, blankAfter, enclosed⟩
    rw [range?_of_enclosed writesStart writesStop blankBefore blankAfter enclosed,
      readInteger?_of_writesInteger writesStart, readInteger?_of_writesInteger writesStop]
    simp only [Option.bind_some, Int64.ofInt_toInt]

/-- A range is read back from its text. -/
theorem range?_rangeText (range : IntegerRange) : range? (rangeText range) = some range := by
  have noBlank : ∀ c ∈ [], isBlank c = true := List.forall_mem_nil _
  have bare : Enclosed (rangeText range) ([] ++ (rangeText range ++ [])) := .bare noBlank noBlank
  rw [List.nil_append, List.append_nil] at bare
  exact range?_eq_some_iff.mpr (.literal (writesInteger_integerChars _)
    (writesInteger_integerChars _) noBlank noBlank bare)

/-- The digits of a range literal are ASCII digits. -/
theorem WritesRange.isAsciiDigit_of_mem (writes : WritesRange range text) {c : Char}
    (member : c ∈ text) (digit : isDigit c = true) : isAsciiDigit c = true := by
  obtain ⟨writesStart, writesStop, blankBefore, blankAfter, enclosed⟩ := writes
  have known : isAsciiDigit c = true ∨ isDigit c = false := by
    have integer {numeral : List Char} {k : Int} (writes : WritesInteger numeral k)
        (inside : c ∈ numeral) : isAsciiDigit c = true ∨ isDigit c = false := by
      rcases writes.mem inside with rfl | ascii
      · exact .inr (by decide)
      · exact .inl ascii
    have noDigit {chars : List Char} (none : chars.any isDigit = false) (inside : c ∈ chars) :
        isDigit c = false :=
      Bool.eq_false_iff.mpr (List.any_eq_false.mp none c inside)
    have operator : (rangeOperator range.inclusive).any isDigit = false := by
      cases range.inclusive with
      | false => decide
      | true => decide
    have parentheses : ['(', ')'].any isDigit = false := by decide
    rcases enclosed.mem member with blank | bracket | inside
    · exact .inr (not_isDigit_of_isBlank blank)
    · exact .inr (noDigit parentheses bracket)
    · simp only [spacedRange, List.mem_append] at inside
      rcases inside with start | before | middle | after | stop
      · exact integer writesStart start
      · exact .inr (not_isDigit_of_isBlank (blankBefore c before))
      · exact .inr (noDigit operator middle)
      · exact .inr (not_isDigit_of_isBlank (blankAfter c after))
      · exact integer writesStop stop
  rcases known with ascii | noDigit
  · exact ascii
  · rw [digit] at noDigit
    exact Bool.noConfusion noDigit

end Reading

/-- Ranges are read from their literals and from nothing else.  The texts that are read as a range
are those written for it: the literal of any range, with the digits that its integers have or zeros
in front of them, with any blanks around the operator and in any number of pairs of parentheses with
blanks around each.  So a text that holds a digit of another script is not read, and two integers
with an operator between them are read exactly if both fit into 64 bits. -/
theorem range?_exact :
    (∀ (text : List Char) (range : IntegerRange),
      range? text = some range ↔ WritesRange range text) ∧
    (∀ (range : IntegerRange) (before after text : List Char),
      (∀ c ∈ before, isBlank c = true) → (∀ c ∈ after, isBlank c = true) →
        Enclosed (spacedRange (integerChars range.start.toInt) before range.inclusive after
          (integerChars range.stop.toInt)) text →
            range? text = some range) ∧
    (∀ (text : List Char) (c : Char), c ∈ text → isDigit c = true → isAsciiDigit c = false →
      range? text = none) ∧
    ∀ (start before after stop text : List Char) (m n : Int) (inclusive : Bool),
      WritesInteger start m → WritesInteger stop n →
        (∀ c ∈ before, isBlank c = true) → (∀ c ∈ after, isBlank c = true) →
          Enclosed (spacedRange start before inclusive after stop) text →
            ((range? text).isSome = true ↔
              (Int64.minValue.toInt ≤ m ∧ m ≤ Int64.maxValue.toInt) ∧
                Int64.minValue.toInt ≤ n ∧ n ≤ Int64.maxValue.toInt) := by
  refine ⟨fun text range ↦ range?_eq_some_iff, ?printed, ?foreign, ?bounds⟩
  case printed =>
    intro range before after text blankBefore blankAfter enclosed
    exact range?_eq_some_iff.mpr (.literal (writesInteger_integerChars _)
      (writesInteger_integerChars _) blankBefore blankAfter enclosed)
  case foreign =>
    intro text c member digit foreign
    rw [Option.eq_none_iff_forall_ne_some]
    intro range read
    have ascii := (range?_eq_some_iff.mp read).isAsciiDigit_of_mem member digit
    rw [foreign] at ascii
    exact Bool.noConfusion ascii
  case bounds =>
    intro start before after stop text m n inclusive writesStart writesStop blankBefore blankAfter
      enclosed
    rw [range?_of_enclosed writesStart writesStop blankBefore blankAfter enclosed,
      ← isSome_readInteger?_iff writesStart, ← isSome_readInteger?_iff writesStop]
    cases readInteger? start with
    | none => simp
    | some first =>
      cases readInteger? stop with
      | none => simp
      | some last => simp

/-- All integers of 64 bits from minus five on but the last, in two pairs of parentheses with blanks
around the inner one and in front of the operator. -/
def nestedLiteral : List Char :=
  "( (-05 ..<9223372036854775807)\t)".toList

theorem range?_exact_nestedLiteral :
    WritesRange ⟨-5, Int64.maxValue, false⟩ nestedLiteral ∧
      range? nestedLiteral = some ⟨-5, Int64.maxValue, false⟩ ∧
      range? "0...3".toList = some ⟨0, 3, true⟩ ∧
      range? "0..<٣".toList = none ∧
      ¬(range? "0...9223372036854775808".toList).isSome = true := by
  obtain ⟨written, printed, foreign, bounds⟩ := range?_exact
  have blank : ∀ c ∈ [' '], isBlank c = true := List.forall_mem_singleton.mpr (by decide)
  have tab : ∀ c ∈ ['\t'], isBlank c = true := List.forall_mem_singleton.mpr (by decide)
  have noBlank : ∀ c ∈ [], isBlank c = true := List.forall_mem_nil _
  have first : WritesInteger "-05".toList (-5) :=
    .negative (by decide) (List.all_eq_true.mp (by decide))
  have last : WritesInteger "9223372036854775807".toList Int64.maxValue.toInt :=
    .natural (by decide) (List.all_eq_true.mp (by decide))
  have nested : Enclosed
      (spacedRange "-05".toList [' '] false [] "9223372036854775807".toList) nestedLiteral :=
    .parentheses noBlank noBlank (.parentheses blank tab (.bare noBlank noBlank))
  have literal : WritesRange ⟨-5, Int64.maxValue, false⟩ nestedLiteral :=
    .literal first last blank noBlank nested
  have zero : WritesInteger "0".toList 0 :=
    .natural (by decide) (List.all_eq_true.mp (by decide))
  have large : WritesInteger "9223372036854775808".toList 9223372036854775808 :=
    .natural (by decide) (List.all_eq_true.mp (by decide))
  refine ⟨literal, (written _ _).mpr literal, ?_, ?_, ?_⟩
  · exact printed ⟨0, 3, true⟩ [] [] _ noBlank noBlank (.bare noBlank noBlank)
  · exact foreign _ '٣' (by decide) (by decide) (by decide)
  · intro readable
    have fits := (bounds _ [] [] _ _ _ _ true zero large noBlank noBlank
      (.bare noBlank noBlank)).mp readable
    exact absurd fits.2.2 (by decide)

end ViewPreview.Call
