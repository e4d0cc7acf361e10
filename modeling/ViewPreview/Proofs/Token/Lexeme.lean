import ViewPreview.Proofs.Call.Literal
import ViewPreview.Token.Lexer

/-!
# Cutting Off One Token

The token that a text begins with, when the text is known to begin with a name, a number, a string
or a mark.  What comes next must not go on with the token; a few characters are enough to end any of
these.
-/

namespace ViewPreview

open ViewPreview.Text ViewPreview.Call ViewPreview.Number

/-! ## Gaps -/

/-- The gaps of canonical texts. -/
def plainGaps : List (List Char) :=
  [[], [' '], ['\n']]

/-- Whether a character is no blank and begins no comment. -/
structure IsVisible (c : Char) : Prop where
  notBlank : isBlank c = false
  noSlash : c ≠ '/'
  noMark : c ≠ '\ufeff'

theorem gapLength_visible {c : Char} (visible : IsVisible c) (text : List Char) :
    gapLength .blank (c :: text) = 0 := by
  have noMark : (c == '\ufeff') = false := beq_eq_false_iff_ne.mpr visible.noMark
  unfold gapLength
  split
  · next absent => cases absent
  · next same =>
    cases same
    exact absurd rfl visible.noSlash
  · next same =>
    cases same
    exact absurd rfl visible.noSlash
  · next same =>
    cases same
    rw [visible.notBlank, noMark]
    rfl
  all_goals contradiction

theorem gapLength_plain {gap : List Char} (isPlain : gap ∈ plainGaps) {c : Char}
    (visible : IsVisible c) (text : List Char) :
    gapLength .blank (gap ++ c :: text) = gap.length := by
  have none := gapLength_visible visible text
  have oneMore (blank : Char) (isBlank : blank = ' ' ∨ blank = '\n') :
      gapLength .blank (blank :: c :: text) = 1 := by
    rcases isBlank with rfl | rfl
    · exact congrArg (· + 1) none
    · exact congrArg (· + 1) none
  simp only [plainGaps, List.mem_cons, List.not_mem_nil, or_false] at isPlain
  rcases isPlain with rfl | rfl | rfl
  · exact none
  · exact oneMore ' ' (.inl rfl)
  · exact oneMore '\n' (.inr rfl)

/-- A token is cut off together with the gap before it. -/
theorem tokensFrom_cons {line : Nat} {position : Position} {gap : List Char}
    (isPlain : gap ∈ plainGaps) {c : Char} (visible : IsVisible c) {kind : TokenKind}
    {body rest : List Char} (lexed : lexeme position c (body ++ rest) = (kind, body.length)) :
    tokensFrom line position (gap ++ c :: (body ++ rest)) =
      (⟨kind, gap, c :: body, line + lineFeeds gap⟩ : Token) ::
        tokensFrom (line + lineFeeds (gap ++ c :: body))
          (position.after ⟨kind, gap, c :: body, line + lineFeeds gap⟩) rest := by
  have length := gapLength_plain isPlain visible (body ++ rest)
  have behind : (gap ++ c :: (body ++ rest)).drop gap.length = c :: (body ++ rest) :=
    List.drop_left
  have before : (gap ++ c :: (body ++ rest)).take gap.length = gap := List.take_left
  have feeds : line + lineFeeds gap + lineFeeds (c :: body) =
      line + lineFeeds (gap ++ c :: body) := by
    simp only [lineFeeds, List.count_append, Nat.add_assoc]
  rw [tokensFrom, length]
  split
  · next absent =>
    rw [behind] at absent
    cases absent
  · next d others same =>
    rw [behind] at same
    obtain ⟨rfl, rfl⟩ := List.cons.inj same
    simp only [before, lexed, List.take_left, List.drop_left, feeds]

/-! ## Positions -/

/-- Only a dot comes before the name of a member. -/
theorem after_ne_member (position : Position) {token : Token} (noDot : token.isMark "." = false) :
    position.after token ≠ .member := by
  unfold Position.after
  split
  · rw [noDot, if_neg Bool.false_ne_true]
    split
    · exact Position.noConfusion
    · exact Position.noConfusion
  · split
    · exact Position.noConfusion
    · exact Position.noConfusion
  · exact Position.noConfusion

/-! ## Characters -/

/-- Letters, digits and the low line are the parts of names among the ASCII characters, the dollar
sign apart. -/
theorem isNamePart_of_isIdentifierPart {c : Char} (part : isIdentifierPart c = true) :
    isNamePart c = true := by
  rw [isNamePart, isNameStart, isIdentifierStart]
  rw [isIdentifierPart, Bool.or_eq_true, Bool.or_eq_true] at part
  rcases part with (letter | digit) | line
  · rw [letter]
    rfl
  · rw [digit, Bool.or_true]
  · rw [line, Bool.or_true]
    rfl

theorem isVisible_of_isIdentifierPart {c : Char} (part : isIdentifierPart c = true) :
    IsVisible c where
  notBlank := not_isBlank_of_isIdentifierPart part
  noSlash := ne_of_isIdentifierPart part (by decide)
  noMark := ne_of_isIdentifierPart part (by decide)

theorem openedLiteral?_eq_none {c : Char} (noQuote : c ≠ '"') (noHash : c ≠ '#')
    (text : List Char) : openedLiteral? (c :: text) = none := by
  have none : (c :: text).takeWhile (· == '#') = [] := by
    rw [List.takeWhile_cons, beq_eq_false_iff_ne.mpr noHash, if_neg Bool.false_ne_true]
  unfold openedLiteral?
  rw [none]
  simp only [List.length_nil, List.drop_zero]
  split
  · next same =>
    cases same
    exact absurd rfl noQuote
  · next same =>
    cases same
    exact absurd rfl noQuote
  · rfl

/-! ## Names and numbers -/

section Words

variable {position : Position} {c : Char} {body rest : List Char}

theorem lexeme_name (start : isIdentifierStart c = true)
    (parts : ∀ d ∈ body, isIdentifierPart d = true) (stops : Stops isNamePart rest) :
    lexeme position c (body ++ rest) = (.word, body.length) := by
  have part := isIdentifierPart_of_isIdentifierStart start
  have other (d : Char) (noPart : isIdentifierPart d = false) : c ≠ d :=
    ne_of_isIdentifierPart part noPart
  have noHash : (c == '#') = false := beq_eq_false_iff_ne.mpr (other '#' (by decide))
  have noSlash : (c == '/') = false := beq_eq_false_iff_ne.mpr (other '/' (by decide))
  have isName : isNameStart c = true := by
    rw [isNameStart, start, Bool.true_or, Bool.true_or]
  have run : runLength isNamePart (body ++ rest) = body.length := by
    rw [runLength, takeWhile_append_of_stops _ stops]
    exact fun d member ↦ isNamePart_of_isIdentifierPart (parts d member)
  unfold lexeme
  rw [openedLiteral?_eq_none (other '"' (by decide)) (other '#' (by decide))]
  simp only [noHash, noSlash, Bool.false_and, Bool.false_eq_true, if_false, isName, Bool.true_or,
    if_true, run]

theorem lexeme_number (digit : isAsciiDigit c = true) (noMember : position ≠ .member)
    (length : numberLength (body ++ rest) = body.length) :
    lexeme position c (body ++ rest) = (.number, body.length) := by
  have other (d : Char) (noDigit : isAsciiDigit d = false) : (c == d) = false :=
    beq_eq_false_iff_ne.mpr (ne_of_isAsciiDigit digit noDigit)
  have noName : isNameStart c = false := by
    have bounds := (isAsciiDigit_iff c).mp digit
    have noLetter : isAsciiLetter c = false := by
      rw [Bool.eq_false_iff, Ne, isAsciiLetter_iff]
      omega
    have ascii : decide (c.toNat ≥ 0x80) = false := by
      rw [decide_eq_false_iff_not]
      omega
    rw [isNameStart, isIdentifierStart, noLetter, other '_' (by decide), other '$' (by decide),
      ascii]
    rfl
  have elsewhere : (position == .member) = false := beq_eq_false_iff_ne.mpr noMember
  unfold lexeme
  rw [openedLiteral?_eq_none (ne_of_isAsciiDigit digit (by decide))
    (ne_of_isAsciiDigit digit (by decide))]
  simp only [other '#' (by decide), other '/' (by decide), other '`' (by decide), noName, digit,
    elsewhere, length, Bool.false_and, Bool.or_self, Bool.false_eq_true, if_false, if_true]

end Words

/-! ## Marks -/

/-- The marks that no character can go on with. -/
def singleMarks : List Char :=
  ['(', ')', '[', ']', '\x7b', '\x7d', ',', ':']

theorem lexeme_singleMark {position : Position} {c : Char} (isSingle : c ∈ singleMarks)
    (text : List Char) : lexeme position c text = (.mark, 0) := by
  simp only [singleMarks, List.mem_cons, List.not_mem_nil, or_false] at isSingle
  rcases isSingle with rfl | rfl | rfl | rfl | rfl | rfl | rfl | rfl
  all_goals
    cases position with
    | member => rfl
    | operand => rfl
    | continuation => rfl

theorem isVisible_of_mem_singleMarks {c : Char} (isSingle : c ∈ singleMarks) : IsVisible c := by
  simp only [singleMarks, List.mem_cons, List.not_mem_nil, or_false] at isSingle
  rcases isSingle with rfl | rfl | rfl | rfl | rfl | rfl | rfl | rfl
  all_goals exact ⟨by decide, by decide, by decide⟩

/-- A dot stands by itself before a name. -/
theorem lexeme_dot {position : Position} {text : List Char} (ends : continuesDot text = false) :
    lexeme position '.' text = (.mark, 0) := by
  have noLiteral : openedLiteral? ('.' :: text) = none :=
    openedLiteral?_eq_none (by decide) (by decide) text
  have noName : isNameStart '.' = false := by decide
  have noOperator : isOperator '.' = false := by decide
  have noDigit : isAsciiDigit '.' = false := by decide
  have noMark : ('.' == '#') = false ∧ ('.' == '/') = false ∧ ('.' == '`') = false := by decide
  unfold lexeme
  rw [noLiteral]
  simp only [noName, noOperator, noDigit, noMark, ends, Bool.false_and, Bool.and_false,
    Bool.or_self, Bool.false_eq_true, if_false]

/-- Dots at the start of an operator go as far as the operator does. -/
theorem lexeme_dots {position : Position} {body rest : List Char}
    (goesOn : continuesDot (body ++ rest) = true)
    (all : ∀ c ∈ body, (c == '.' || isOperator c) = true)
    (stops : Stops (fun c ↦ c == '.' || isOperator c) rest) :
    lexeme position '.' (body ++ rest) = (.mark, body.length) := by
  have noLiteral : openedLiteral? ('.' :: (body ++ rest)) = none :=
    openedLiteral?_eq_none (by decide) (by decide) _
  have noName : isNameStart '.' = false := by decide
  have noOperator : isOperator '.' = false := by decide
  have noDigit : isAsciiDigit '.' = false := by decide
  have noMark : ('.' == '#') = false ∧ ('.' == '/') = false ∧ ('.' == '`') = false := by decide
  have run : runLength (fun c ↦ c == '.' || isOperator c) (body ++ rest) = body.length := by
    rw [runLength, takeWhile_append_of_stops all stops]
  unfold lexeme
  rw [noLiteral]
  simp only [noName, noOperator, noDigit, noMark, goesOn, run, Bool.false_and, Bool.or_self,
    Bool.false_eq_true, if_false, beq_self_eq_true, Bool.and_self, if_true]

/-- A sign stands by itself before a digit. -/
theorem lexeme_minus {position : Position} {text : List Char} (stops : Stops isOperator text) :
    lexeme position '-' text = (.mark, 0) := by
  have noLiteral : openedLiteral? ('-' :: text) = none :=
    openedLiteral?_eq_none (by decide) (by decide) text
  have noName : isNameStart '-' = false := by decide
  have isOperator : isOperator '-' = true := by decide
  have noDigit : isAsciiDigit '-' = false := by decide
  have noMark : ('-' == '#') = false ∧ ('-' == '/') = false ∧ ('-' == '`') = false := by decide
  unfold lexeme
  rw [noLiteral]
  simp only [noName, isOperator, noDigit, noMark, runLength, takeWhile_eq_nil_of_stops stops,
    List.length_nil, Bool.false_and, Bool.or_self, Bool.false_eq_true, if_false, if_true]

/-! ## Strings -/

theorem stringLength_plain {content : List Char} (plain : ∀ c ∈ content, c ≠ '"' ∧ c ≠ '\\')
    (rest : List Char) :
    stringLength [.literal 0 false] 0 (content ++ '"' :: rest) = content.length + 1 := by
  induction content with
  | nil =>
    rw [List.nil_append, stringLength]
    show stringLength [] 0 rest + 1 = _
    cases rest with
    | nil => rfl
    | cons c rest => rfl
  | cons c content ih =>
    obtain ⟨⟨noQuote, noEscape⟩, others⟩ := List.forall_mem_cons.mp plain
    have goesOn : nextStringPlaces (.literal 0 false) [] (c :: (content ++ '"' :: rest)) =
        ([.literal 0 false], 0) := by
      have quote : (quotes false ++ List.replicate 0 '#').isPrefixOf
          (c :: (content ++ '"' :: rest)) = false := by
        show ('"' == c && _) = false
        rw [beq_eq_false_iff_ne.mpr noQuote.symm, Bool.false_and]
      have escape : ('\\' :: List.replicate 0 '#').isPrefixOf
          (c :: (content ++ '"' :: rest)) = false := by
        show ('\\' == c && _) = false
        rw [beq_eq_false_iff_ne.mpr noEscape.symm, Bool.false_and]
      unfold nextStringPlaces
      simp only [quote, escape, Bool.false_eq_true, if_false]
    rw [List.cons_append, stringLength, goesOn, ih others, List.length_cons]

/-- A string without quotes in it ends at the next quote.  Behind an empty string there must be no
third quote. -/
theorem lexeme_string {position : Position} {content rest : List Char}
    (plain : ∀ c ∈ content, c ≠ '"' ∧ c ≠ '\\') (ends : rest.head? ≠ some '"') :
    lexeme position '"' (content ++ ['"'] ++ rest) = (.string, (content ++ ['"']).length) := by
  have opened : openedLiteral? ('"' :: (content ++ ['"'] ++ rest)) =
      some (.literal 0 false, 1) := by
    unfold openedLiteral?
    cases content with
    | nil =>
      cases rest with
      | nil => rfl
      | cons c rest =>
        have other : c ≠ '"' := fun same ↦ ends (congrArg some same)
        simp [other]
    | cons c content =>
      have other := (List.forall_mem_cons.mp plain).1.1
      simp [other]
  have length : stringLength [.literal 0 false] 0 (content ++ ['"'] ++ rest) =
      (content ++ ['"']).length := by
    rw [List.append_assoc, List.length_append]
    exact stringLength_plain plain rest
  unfold lexeme
  rw [opened]
  exact congrArg (Prod.mk TokenKind.string) length

/-! ## Bounded cutting

A text has no more tokens than characters.  Cutting a text with that bound recurses on the bound, so
that the tokens of a given source can be computed inside a proof.
-/

/-- The tokens of a text, at most a given number of them. -/
def tokensWithin : (limit line : Nat) → (position : Position) → (text : List Char) → List Token
  | 0, _, _, _ => []
  | limit + 1, line, position, text =>
    let gap := gapLength .blank text
    match text.drop gap with
    | [] => []
    | c :: rest =>
      let (kind, length) := lexeme position c rest
      let token : Token :=
        { kind
          gap := text.take gap
          text := c :: rest.take length
          line := line + lineFeeds (text.take gap) }
      token ::
        tokensWithin limit (token.line + lineFeeds token.text) (position.after token)
          (rest.drop length)

theorem tokensFrom_eq_tokensWithin {limit line : Nat} {position : Position} {text : List Char}
    (enough : text.length ≤ limit) :
    tokensFrom line position text = tokensWithin limit line position text := by
  induction limit generalizing line position text with
  | zero =>
    rw [List.eq_nil_of_length_eq_zero (Nat.le_zero.mp enough), tokensFrom.eq_def]
    rfl
  | succ limit ih =>
    rw [tokensFrom, tokensWithin]
    split
    · next nothing => simp only [nothing]
    · next c rest something =>
      have shorter := congrArg List.length something
      simp only [List.length_drop, List.length_cons] at shorter
      simp only [something]
      rw [ih]
      rw [List.length_drop]
      omega

/-- The tokens of a source are cut with its length as the bound. -/
theorem tokens_eq_tokensWithin (source : List Char) :
    tokens source = tokensWithin source.length 1 .operand source :=
  tokensFrom_eq_tokensWithin (Nat.le_refl _)

end ViewPreview
