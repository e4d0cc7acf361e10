import ViewPreview.Proofs.Call.Argument
import ViewPreview.Proofs.Number.Integer
import ViewPreview.Proofs.Spelling.Literal

/-!
# Literals and Names as Arguments

The texts of the values that arguments denote: strings, enumeration cases, lists of these, numerals,
truth values and ranges.  Each is a value in the sense that it can be written between parentheses
and commas, and each but a range is read back here as what it denotes.
-/

namespace ViewPreview.Call

open ViewPreview.Text ViewPreview.Number

/-! ## Strings -/

/-- A text that stands in a string literal as it is and opens no bracket there. -/
structure PlainText where
  chars : List Char
  plain : ∀ c ∈ chars, c ∉ ['\n', '"', '\\', '(', ')', '[', ']', '{', '}']

namespace PlainText

/-- A plain text as a string. -/
def string (content : PlainText) : String :=
  String.ofList content.chars

/-- A plain text in quotes. -/
def quoted (content : PlainText) : List Char :=
  '"' :: (content.chars ++ ['"'])

variable (content : PlainText)

theorem ne_of_mem {c : Char} (member : c ∈ content.chars) (d : Char)
    (special : d ∈ ['\n', '"', '\\', '(', ')', '[', ']', '{', '}']) : c ≠ d := by
  intro same
  exact content.plain c member (same ▸ special)

/-- A plain text in quotes is the literal of its string. -/
theorem quoted_eq_literal : content.quoted = Spelling.literal content.string := by
  have kept : Spelling.escape content.chars = content.chars := by
    apply Spelling.escape_eq_self
    rintro c member (quote | backslash)
    · exact content.ne_of_mem member '"' (by decide) quote
    · exact content.ne_of_mem member '\\' (by decide) backslash
  rw [Spelling.literal, PlainText.string, String.toList_ofList, kept]
  rfl

theorem isValue_quoted : IsValue content.quoted where
  unsplit := by
    rw [quoted_eq_literal]
    exact Spelling.unsplit_literal ',' 0 content.string
  trimmed := trimmed_enclosed content.chars (by decide) (by decide)
  nonempty := List.cons_ne_nil _ _
  unlabeled := splitLabel?_eq_none (by decide) (by decide)
  flat := by
    have quote : '"' ∉ ['(', ')', '{', '}'] := by decide
    have inside : ∀ c ∈ content.chars, c ∉ ['(', ')', '{', '}'] := by
      intro c member bracket
      have special : ∀ d ∈ ['(', ')', '{', '}'],
          d ∈ ['\n', '"', '\\', '(', ')', '[', ']', '{', '}'] := by simp
      exact content.plain c member (special c bracket)
    exact List.forall_mem_cons.mpr ⟨quote, List.forall_mem_append.mpr ⟨inside, by simp⟩⟩
  commentless := by
    apply commentless_quoted
    intro c member
    exact ⟨content.ne_of_mem member '\n' (by decide), content.ne_of_mem member '"' (by decide)⟩

theorem isQuoted_quoted : isQuoted content.quoted = true := by
  rw [quoted_eq_literal]
  exact Spelling.isQuoted_literal content.string

theorem stringLiteral?_quoted : stringLiteral? content.quoted = some content.string := by
  rw [quoted_eq_literal]
  exact Spelling.stringLiteral?_literal content.string

end PlainText

/-! ## Enumeration cases -/

/-- An enumeration case as it is written. -/
def caseText (name : Identifier) : List Char :=
  '.' :: name.chars

theorem isTokenPart_caseText (name : Identifier) : ∀ c ∈ caseText name, isTokenPart c = true := by
  refine List.forall_mem_cons.mpr ⟨by decide, ?_⟩
  intro c member
  exact isTokenPart_of_isIdentifierPart (name.isIdentifierPart_of_mem member)

theorem isValue_caseText (name : Identifier) : IsValue (caseText name) :=
  isValue_of_forall (isTokenPart_caseText name) (List.cons_ne_nil _ _)
    (splitLabel?_eq_none (by decide) (by decide))

theorem trimmed_caseText (name : Identifier) : Trimmed (caseText name) :=
  (isValue_caseText name).trimmed

/-- An enumeration case is read off the start of a text. -/
theorem token?_caseText_append (name : Identifier) {rest : List Char}
    (trimmed : Trimmed (caseText name ++ rest)) (stops : Stops isIdentifierPart rest) :
    token? (caseText name ++ rest) = some name.string := by
  rw [token?, trimmed.trim_eq, caseText, List.cons_append, dotToken?,
    name.splitIdentifier?_append stops]
  rfl

theorem token?_caseText (name : Identifier) : token? (caseText name) = some name.string := by
  have trimmed := trimmed_caseText name
  rw [← List.append_nil (caseText name)] at trimmed ⊢
  exact token?_caseText_append name trimmed (stops_nil _)

/-- Enumeration cases as arguments. -/
def caseArguments (names : List Identifier) : List WrittenArgument :=
  names.map fun name ↦ .plain (isValue_caseText name)

/-- A list of enumeration cases as it is written. -/
def caseListText (names : List Identifier) : List Char :=
  '[' :: (argumentsText (caseArguments names) ++ [']'])

theorem forall_mem_caseArguments (property : Char → Prop) (names : List Identifier)
    (comma : property ',') (blank : property ' ')
    (each : ∀ c, isTokenPart c = true → property c) :
    ∀ c ∈ argumentsText (caseArguments names), property c := by
  apply forall_mem_argumentsText comma blank
  intro argument member c inside
  obtain ⟨name, -, rfl⟩ := List.mem_map.mp member
  exact each c (isTokenPart_caseText name c inside)

theorem isValue_caseListText (names : List Identifier) : IsValue (caseListText names) where
  unsplit := by
    apply unsplit_bracketed (Int.le_refl 0)
    apply forall_mem_caseArguments (isDelimiter · = false) names (by decide) (by decide)
    intro c part
    exact not_isDelimiter_of_isTokenPart part
  trimmed := trimmed_enclosed _ (by decide) (by decide)
  nonempty := List.cons_ne_nil _ _
  unlabeled := splitLabel?_eq_none (by decide) (by decide)
  flat := by
    refine List.forall_mem_cons.mpr ⟨by decide, List.forall_mem_append.mpr ⟨?_, by simp⟩⟩
    exact flat_argumentsText _
  commentless := by
    have opening : Commentless ['['] := commentless_of_all (by decide)
    have closing : Commentless [']'] := commentless_of_all (by decide)
    exact opening.append ((commentless_argumentsText _).append closing)

theorem elementItems_caseArguments (names : List Identifier) :
    elementItems (argumentsText (caseArguments names)) = names.map Identifier.string := by
  rw [elementItems, trimmedParts_argumentsText]
  induction names with
  | nil => rfl
  | cons name names ih =>
    have unquoted : isQuoted (caseText name) = false := by
      rw [isQuoted, (trimmed_caseText name).trim_eq]
      rfl
    have item : item? (caseText name) = some name.string := by
      rw [item?, unquoted, if_neg Bool.false_ne_true, token?_caseText]
    show (caseText name :: (caseArguments names).map WrittenArgument.text).filterMap item? = _
    rw [List.filterMap_cons_some item, ih, List.map_cons]

theorem listItems?_caseListText (names : List Identifier) :
    listItems? (caseListText names) = some (names.map Identifier.string) := by
  rw [listItems?, (isValue_caseListText names).trimmed.trim_eq]
  show ((dropFinish? [']'] (argumentsText (caseArguments names) ++ [']'])).map elementItems) = _
  rw [dropFinish?_append, Option.map_some, elementItems_caseArguments]

/-! ## Numerals and truth values -/

theorem isTokenPart_of_isAsciiDigit {c : Char} (digit : isAsciiDigit c = true) :
    isTokenPart c = true := by
  rw [isTokenPart, isIdentifierPart, digit, Bool.or_true]
  rfl

theorem not_isIdentifierStart_of_numeric {c : Char} (first : c = '-' ∨ isAsciiDigit c = true) :
    isIdentifierStart c = false := by
  rcases first with rfl | digit
  · decide
  · rw [Bool.eq_false_iff]
    intro start
    rw [not_isAsciiDigit_of_isIdentifierStart start] at digit
    exact Bool.noConfusion digit

/-- A text that begins like a numeral has no label. -/
theorem splitLabel?_numeric {c : Char} {rest : List Char} (first : c = '-' ∨ isAsciiDigit c = true) :
    splitLabel? (c :: rest) = none := by
  have visible : isBlank c = false := by
    rcases first with rfl | digit
    · decide
    · exact not_isBlank_of_isTokenPart (isTokenPart_of_isAsciiDigit digit)
  exact splitLabel?_eq_none visible (not_isIdentifierStart_of_numeric first)

theorem isTokenPart_numeral (numeral : Numeral) : ∀ c ∈ numeral.text, isTokenPart c = true := by
  intro c member
  rcases numeral.mem_text member with rfl | rfl | digit
  · decide
  · decide
  · exact isTokenPart_of_isAsciiDigit digit

theorem isValue_numeral (numeral : Numeral) : IsValue numeral.text := by
  obtain ⟨c, rest, same, first⟩ := numeral.text_eq_cons
  apply isValue_of_forall (isTokenPart_numeral numeral)
  · rw [same]
    exact List.cons_ne_nil c rest
  · rw [same]
    exact splitLabel?_numeric first

/-- A numeral in a text begins where blanks end. -/
theorem trimStart_numeral (numeral : Numeral) (rest : List Char) :
    trimStart (numeral.text ++ rest) = numeral.text ++ rest := by
  obtain ⟨c, others, same, -⟩ := numeral.text_eq_cons
  apply trimStart_eq_self
  intro d member
  rw [same] at member
  rw [← Option.some.inj member]
  exact not_isBlank_of_isTokenPart (isTokenPart_numeral numeral c (same ▸ List.mem_cons_self))

/-- A truth value as it is written. -/
def boolName (value : Bool) : Identifier :=
  if value then ⟨"true".toList, by decide⟩ else ⟨"false".toList, by decide⟩

theorem isValue_identifier (name : Identifier) : IsValue name.chars := by
  apply isValue_of_forall
  · intro c member
    exact isTokenPart_of_isIdentifierPart (name.isIdentifierPart_of_mem member)
  · exact name.chars_ne_nil
  · exact splitLabel?_identifier name

theorem boolLiteral?_boolName (value : Bool) : boolLiteral? (boolName value).chars = some value := by
  cases value with
  | false => rfl
  | true => rfl

/-! ## Ranges -/

/-- The operator of a range. -/
def rangeOperator (inclusive : Bool) : List Char :=
  if inclusive then ['.', '.', '.'] else ['.', '.', '<']

/-- A range of integers as it is written. -/
def rangeText (range : IntegerRange) : List Char :=
  integerChars range.start.toInt ++
    (rangeOperator range.inclusive ++ integerChars range.stop.toInt)

theorem isTokenPart_integerChars (n : Int) : ∀ c ∈ integerChars n, isTokenPart c = true := by
  intro c member
  rcases mem_integerChars member with rfl | digit
  · decide
  · exact isTokenPart_of_isAsciiDigit digit

theorem isTokenPart_rangeText (range : IntegerRange) :
    ∀ c ∈ rangeText range, isTokenPart c = true := by
  have operator : ∀ c ∈ rangeOperator range.inclusive, isTokenPart c = true := by
    apply List.all_eq_true.mp
    cases range.inclusive with
    | false => decide
    | true => decide
  refine List.forall_mem_append.mpr ⟨isTokenPart_integerChars _, ?_⟩
  exact List.forall_mem_append.mpr ⟨operator, isTokenPart_integerChars _⟩

theorem isValue_rangeText (range : IntegerRange) : IsValue (rangeText range) := by
  apply isValue_of_forall (isTokenPart_rangeText range)
  · exact List.append_ne_nil_of_left_ne_nil (integerChars_ne_nil _) _
  · obtain ⟨c, rest, same, first⟩ := integerChars_eq_cons range.start.toInt
    rw [rangeText, same, List.cons_append]
    exact splitLabel?_numeric first

end ViewPreview.Call
