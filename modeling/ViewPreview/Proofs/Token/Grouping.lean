import ViewPreview.Proofs.Token.Lexeme
import ViewPreview.Token.Item

/-!
# Grouping a Text

The items of a text put together from the items of its parts.  A part adds its items to the group
that is open where it stands, and a part in brackets adds one group.  Nothing is malformed by that,
so balanced texts have balanced items.
-/

namespace ViewPreview

open ViewPreview.Text ViewPreview.Call ViewPreview.Number

/-! ## Ends of tokens -/

/-- Whether no token goes on into a text. -/
structure EndsToken (rest : List Char) : Prop where
  name : Stops isNamePart rest
  number : numberLength rest = 0
  string : rest.head? ≠ some '"'

/-- The characters between canonical tokens, the dot apart. -/
def delimiters : List Char :=
  [' ', '\n', '(', ')', '[', ']', '\x7b', '\x7d', ',', ':']

theorem endsToken_nil : EndsToken [] :=
  ⟨stops_nil _, rfl, fun same ↦ nomatch same⟩

theorem endsToken_delimiter {c : Char} (delimits : c ∈ delimiters) (rest : List Char) :
    EndsToken (c :: rest) := by
  simp only [delimiters, List.mem_cons, List.not_mem_nil, or_false] at delimits
  rcases delimits with rfl | rfl | rfl | rfl | rfl | rfl | rfl | rfl | rfl | rfl
  all_goals exact ⟨stops_cons.mpr (by decide), rfl, fun same ↦ nomatch Option.some.inj same⟩

theorem endsToken_dot {c : Char} (noDigit : isAsciiDigit c = false) (rest : List Char) :
    EndsToken ('.' :: c :: rest) := by
  refine ⟨stops_cons.mpr (by decide), ?_, fun same ↦ nomatch Option.some.inj same⟩
  rw [numberLength, noDigit]
  rfl

theorem endsToken_member (name : Identifier) (rest : List Char) :
    EndsToken ('.' :: (name.chars ++ rest)) := by
  obtain ⟨c, others, same, start, -⟩ := name.exists_chars
  rw [same]
  exact endsToken_dot (not_isAsciiDigit_of_isIdentifierStart start) _

/-- Whether a text ends the token before it when what follows it does. -/
def EndsBefore (text : List Char) : Prop :=
  ∀ rest, EndsToken rest → EndsToken (text ++ rest)

theorem endsBefore_nil : EndsBefore [] :=
  fun _ ends ↦ ends

theorem endsBefore_delimiter {c : Char} (delimits : c ∈ delimiters) (text : List Char) :
    EndsBefore (c :: text) :=
  fun _ _ ↦ endsToken_delimiter delimits _

/-! ## Items of a text -/

/-- Whether a text adds items to those of the group that it stands in, given the line that it starts
on, wherever it starts at one of some positions and is followed by one of some texts.  It leads to
one of some other positions. -/
def Adds (starts stops : Position → Prop) (follows : List Char → Prop) (text : List Char)
    (items : Nat → List Item) : Prop :=
  ∀ (line : Nat) (position : Position) (rest : List Char) (grouping : Grouping),
    starts position → follows rest →
      ∃ after, stops after ∧
        (tokensFrom line position (text ++ rest)).foldl Grouping.add grouping =
          (tokensFrom (line + lineFeeds text) after rest).foldl Grouping.add
            { grouping with items := (items line).reverse ++ grouping.items }

/-- A position where no name of a member stands. -/
def NoMember (position : Position) : Prop :=
  position ≠ .member

/-- Whether a text adds items wherever no name of a member stands and no token goes on behind it. -/
def GroupedAs (text : List Char) (items : Nat → List Item) : Prop :=
  Adds NoMember NoMember EndsToken text items

theorem Adds.append {starts between stops : Position → Prop}
    {followsFirst follows : List Char → Prop} {first second : List Char}
    {items others : Nat → List Item} (ofFirst : Adds starts between followsFirst first items)
    (ofSecond : Adds between stops follows second others)
    (meets : ∀ rest, follows rest → followsFirst (second ++ rest)) :
    Adds starts stops follows (first ++ second) fun line ↦
      items line ++ others (line + lineFeeds first) := by
  intro line position rest grouping isStart isFollowed
  obtain ⟨middle, isBetween, early⟩ :=
    ofFirst line position (second ++ rest) grouping isStart (meets rest isFollowed)
  obtain ⟨after, isStop, late⟩ := ofSecond (line + lineFeeds first) middle rest
    { grouping with items := (items line).reverse ++ grouping.items } isBetween isFollowed
  refine ⟨after, isStop, ?_⟩
  rw [List.append_assoc, early, late, lineFeeds_append, Nat.add_assoc, List.reverse_append,
    List.append_assoc]

theorem groupedAs_nil : GroupedAs [] fun _ ↦ [] :=
  fun _ position _ _ noMember _ ↦ ⟨position, noMember, rfl⟩

theorem GroupedAs.append {first second : List Char} {items others : Nat → List Item}
    (ofFirst : GroupedAs first items) (ofSecond : GroupedAs second others)
    (ends : EndsBefore second) :
    GroupedAs (first ++ second) fun line ↦ items line ++ others (line + lineFeeds first) :=
  Adds.append ofFirst ofSecond ends

/-! ## Tokens -/

theorem noGap : [] ∈ plainGaps := by
  decide

/-- Whether a token is no bracket. -/
structure Token.IsPlain (token : Token) : Prop where
  opensNothing : closingBracket? token = none
  closesNothing : token.isClosing = false

theorem Grouping.add_plain (grouping : Grouping) {token : Token} (isPlain : token.IsPlain) :
    grouping.add token = { grouping with items := .single token :: grouping.items } := by
  rw [Grouping.add, isPlain.opensNothing, isPlain.closesNothing]
  rfl

theorem Token.isPlain_of_kind {token : Token} (noMark : token.kind ≠ .mark) : token.IsPlain := by
  have none (mark : String) : token.isMark mark = false := by
    rw [Token.isMark, beq_eq_false_iff_ne.mpr noMark, Bool.false_and]
  constructor
  · simp only [closingBracket?, none, Bool.false_eq_true, if_false]
  · simp only [Token.isClosing, Token.isMarkOf, List.any_cons, List.any_nil, none, Bool.or_self]

theorem Token.isMark_eq_false_of_kind {token : Token} (noMark : token.kind ≠ .mark)
    (mark : String) : token.isMark mark = false := by
  rw [Token.isMark, beq_eq_false_iff_ne.mpr noMark, Bool.false_and]

/-- The first token of a text is added before the others. -/
theorem foldl_tokensFrom {line : Nat} {position : Position} {gap : List Char}
    (isPlainGap : gap ∈ plainGaps) {c : Char} (visible : IsVisible c) {kind : TokenKind}
    {body rest : List Char} (lexed : lexeme position c (body ++ rest) = (kind, body.length))
    (grouping : Grouping) :
    (tokensFrom line position (gap ++ (c :: body ++ rest))).foldl Grouping.add grouping =
      (tokensFrom (line + lineFeeds (gap ++ c :: body))
        (position.after ⟨kind, gap, c :: body, line + lineFeeds gap⟩) rest).foldl Grouping.add
          (grouping.add ⟨kind, gap, c :: body, line + lineFeeds gap⟩) := by
  rw [List.cons_append, tokensFrom_cons isPlainGap visible lexed, List.foldl_cons]

/-- A token that is no bracket adds itself. -/
theorem adds_token {starts : Position → Prop} {follows : List Char → Prop} {gap : List Char}
    (isPlainGap : gap ∈ plainGaps) {c : Char} (visible : IsVisible c) {kind : TokenKind}
    {body : List Char} (isPlain : ∀ line, (⟨kind, gap, c :: body, line⟩ : Token).IsPlain)
    (noDot : ∀ line, (⟨kind, gap, c :: body, line⟩ : Token).isMark "." = false)
    (lexed : ∀ position rest, starts position → follows rest →
      lexeme position c (body ++ rest) = (kind, body.length)) :
    Adds starts NoMember follows (gap ++ c :: body) fun line ↦
      [.single ⟨kind, gap, c :: body, line + lineFeeds gap⟩] := by
  intro line position rest grouping isStart isFollowed
  refine ⟨_, after_ne_member position (noDot (line + lineFeeds gap)), ?_⟩
  have first := lexed position rest isStart isFollowed
  rw [List.append_assoc, foldl_tokensFrom isPlainGap visible first, grouping.add_plain (isPlain _)]
  rfl

/-- A name as a token. -/
def nameToken (gap : List Char) (name : Identifier) (line : Nat) : Token :=
  ⟨.word, gap, name.chars, line⟩

/-- A mark as a token. -/
def markToken (gap mark : List Char) (line : Nat) : Token :=
  ⟨.mark, gap, mark, line⟩

theorem adds_name {gap : List Char} (isPlainGap : gap ∈ plainGaps) (name : Identifier) :
    Adds (fun _ ↦ True) NoMember EndsToken (gap ++ name.chars) fun line ↦
      [.single (nameToken gap name (line + lineFeeds gap))] := by
  obtain ⟨c, body, same, start, parts⟩ := name.exists_chars
  have visible := isVisible_of_isIdentifierPart (isIdentifierPart_of_isIdentifierStart start)
  simp only [nameToken, same]
  apply adds_token isPlainGap visible
  · exact fun line ↦ Token.isPlain_of_kind TokenKind.noConfusion
  · exact fun line ↦ Token.isMark_eq_false_of_kind TokenKind.noConfusion "."
  · exact fun position rest _ ends ↦ lexeme_name start parts ends.name

theorem groupedAs_name {gap : List Char} (isPlainGap : gap ∈ plainGaps) (name : Identifier) :
    GroupedAs (gap ++ name.chars) fun line ↦
      [.single (nameToken gap name (line + lineFeeds gap))] :=
  fun line position rest grouping _ ends ↦
    adds_name isPlainGap name line position rest grouping trivial ends

/-- A comma or a colon. -/
theorem groupedAs_mark {c : Char} (isMark : c ∈ [',', ':']) :
    GroupedAs [c] fun line ↦ [.single (markToken [] [c] line)] := by
  have isSingle : c ∈ singleMarks := by
    have all : ([',', ':'].all fun c ↦ singleMarks.contains c) = true := by decide
    exact List.contains_iff_mem.mp (List.all_eq_true.mp all c isMark)
  have isPlain (line : Nat) : (markToken [] [c] line).IsPlain := by
    simp only [List.mem_cons, List.not_mem_nil, or_false] at isMark
    rcases isMark with rfl | rfl
    · exact ⟨rfl, rfl⟩
    · exact ⟨rfl, rfl⟩
  have noDot (line : Nat) : (markToken [] [c] line).isMark "." = false := by
    simp only [List.mem_cons, List.not_mem_nil, or_false] at isMark
    rcases isMark with rfl | rfl
    · rfl
    · rfl
  exact adds_token (by decide) (isVisible_of_mem_singleMarks isSingle) isPlain noDot
    fun position rest _ _ ↦ lexeme_singleMark isSingle rest

theorem groupedAs_string {gap : List Char} (isPlainGap : gap ∈ plainGaps) (content : PlainText) :
    GroupedAs (gap ++ content.quoted) fun line ↦
      [.single ⟨.string, gap, content.quoted, line + lineFeeds gap⟩] := by
  have plain : ∀ c ∈ content.chars, c ≠ '"' ∧ c ≠ '\\' := by
    intro c member
    exact ⟨content.ne_of_mem member '"' (by decide), content.ne_of_mem member '\\' (by decide)⟩
  apply adds_token isPlainGap ⟨by decide, by decide, by decide⟩
  · exact fun line ↦ Token.isPlain_of_kind TokenKind.noConfusion
  · exact fun line ↦ Token.isMark_eq_false_of_kind TokenKind.noConfusion "."
  · exact fun position rest _ ends ↦ lexeme_string plain ends.string

/-! ## Members -/

theorem isOperator_of_isIdentifierPart {c : Char} (part : isIdentifierPart c = true) :
    isOperator c = false := by
  have ascii := (toNat_lt_of_isIdentifierPart part).2
  have noneOf : ∀ d ∈ "/=-+!*%<>&|^~?".toList, c ≠ d := by
    intro d member
    have all : ("/=-+!*%<>&|^~?".toList.all fun d ↦ isIdentifierPart d == false) = true := by
      decide
    exact ne_of_isIdentifierPart part (beq_iff_eq.mp (List.all_eq_true.mp all d member))
  have outside : (operatorRanges.any fun range ↦ range.1 ≤ c.toNat && c.toNat ≤ range.2) =
      false := by
    have beyond : ∀ range ∈ operatorRanges, 128 ≤ range.1 := by decide
    rw [List.any_eq_false]
    intro range member
    have := beyond range member
    rw [Bool.and_eq_true, decide_eq_true_eq]
    omega
  rw [isOperator, outside, Bool.or_false, Bool.eq_false_iff]
  exact fun member ↦ noneOf c (List.contains_iff_mem.mp member) rfl

theorem continuesDot_identifier (name : Identifier) (rest : List Char) :
    continuesDot (name.chars ++ rest) = false := by
  obtain ⟨c, body, same, start, -⟩ := name.exists_chars
  have part := isIdentifierPart_of_isIdentifierStart start
  have noDot : (c == '.') = false :=
    beq_eq_false_iff_ne.mpr (ne_of_isIdentifierPart part (by decide))
  rw [same]
  show (c == '.' || (isOperator c && c != '?' && c != '!')) = false
  rw [noDot, isOperator_of_isIdentifierPart part]
  rfl

/-- A dot leads to the name of a member. -/
theorem adds_dot {gap : List Char} (isPlainGap : gap ∈ plainGaps) :
    Adds NoMember (· = .member) (continuesDot · = false) (gap ++ ['.']) fun line ↦
      [.single (markToken gap ['.'] (line + lineFeeds gap))] := by
  intro line position rest grouping _ ends
  have lexed : lexeme position '.' ([] ++ rest) = (.mark, 0) := lexeme_dot ends
  have isPlain : (markToken gap ['.'] (line + lineFeeds gap)).IsPlain := ⟨rfl, rfl⟩
  refine ⟨.member, rfl, ?_⟩
  rw [List.append_assoc]
  refine (foldl_tokensFrom isPlainGap ⟨by decide, by decide, by decide⟩ lexed grouping).trans ?_
  rw [← markToken, grouping.add_plain isPlain]
  rfl

/-- A dot and the name of a member. -/
theorem groupedAs_member {gap : List Char} (isPlainGap : gap ∈ plainGaps) (name : Identifier) :
    GroupedAs (gap ++ '.' :: name.chars) fun line ↦
      [.single (markToken gap ['.'] (line + lineFeeds gap)),
        .single (nameToken [] name (line + lineFeeds gap))] := by
  have named : Adds (· = .member) NoMember EndsToken name.chars fun line ↦
      [.single (nameToken [] name line)] :=
    fun line position rest grouping _ ends ↦
      adds_name noGap name line position rest grouping trivial ends
  have both := (adds_dot isPlainGap).append named fun rest _ ↦ continuesDot_identifier name rest
  have sameLine (line : Nat) : line + lineFeeds (gap ++ ['.']) = line + lineFeeds gap := by
    rw [lineFeeds_append]
    rfl
  simp only [sameLine] at both
  rw [List.append_cons]
  exact both

/-! ## Numbers -/

/-- A number as a token. -/
def numberToken (gap digits : List Char) (line : Nat) : Token :=
  ⟨.number, gap, digits, line⟩

theorem numberLength_cons {c : Char} (noDot : c ≠ '.') (text : List Char) :
    numberLength (c :: text) = if isNamePart c then numberLength text + 1 else 0 := by
  rw [numberLength.eq_def]
  split
  · next absent => cases absent
  · next same => exact absurd (List.cons.inj same).1 noDot
  · next same =>
    obtain ⟨rfl, rfl⟩ := List.cons.inj same
    rfl

theorem numberLength_digits {digits : List Char} (all : ∀ c ∈ digits, isAsciiDigit c = true)
    (rest : List Char) : numberLength (digits ++ rest) = digits.length + numberLength rest := by
  induction digits with
  | nil => exact (Nat.zero_add _).symm
  | cons c digits ih =>
    obtain ⟨digit, others⟩ := List.forall_mem_cons.mp all
    have isPart : isNamePart c = true := by rw [isNamePart, digit, Bool.or_true]
    rw [List.cons_append, numberLength_cons (ne_of_isAsciiDigit digit (by decide)), if_pos isPart,
      ih others, List.length_cons]
    omega

theorem numberLength_places (numeral : Numeral) {rest : List Char} (ends : numberLength rest = 0) :
    numberLength (numeral.places ++ rest) = numeral.places.length := by
  unfold Numeral.places
  split
  · exact ends
  · next present =>
    obtain ⟨c, digits, same⟩ := List.exists_cons_of_ne_nil present
    have all := numeral.isAsciiDigit_fraction
    rw [same] at all ⊢
    obtain ⟨digit, others⟩ := List.forall_mem_cons.mp all
    rw [List.cons_append, List.cons_append, numberLength, if_pos digit,
      numberLength_digits others, ends]
    rfl

/-- The digits of a numeral make one number. -/
theorem adds_unsigned {gap : List Char} (isPlainGap : gap ∈ plainGaps) (numeral : Numeral) :
    Adds NoMember NoMember (numberLength · = 0) (gap ++ numeral.unsigned) fun line ↦
      [.single (numberToken gap numeral.unsigned (line + lineFeeds gap))] := by
  obtain ⟨c, digits, same⟩ := List.exists_cons_of_ne_nil numeral.whole_ne_nil
  have all := numeral.isAsciiDigit_whole
  rw [same] at all
  obtain ⟨digit, others⟩ := List.forall_mem_cons.mp all
  have part : isIdentifierPart c = true := by
    rw [isIdentifierPart, digit, Bool.or_true]
    rfl
  have shape : numeral.unsigned = c :: (digits ++ numeral.places) := by
    rw [Numeral.unsigned, same]
    rfl
  simp only [numberToken, shape]
  apply adds_token isPlainGap (isVisible_of_isIdentifierPart part)
  · exact fun line ↦ Token.isPlain_of_kind TokenKind.noConfusion
  · exact fun line ↦ Token.isMark_eq_false_of_kind TokenKind.noConfusion "."
  · intro position rest noMember ends
    apply lexeme_number digit noMember
    rw [List.append_assoc, numberLength_digits others, numberLength_places numeral ends,
      List.length_append]

theorem not_isOperator_of_isAsciiDigit {c : Char} (digit : isAsciiDigit c = true) :
    isOperator c = false := by
  apply isOperator_of_isIdentifierPart
  rw [isIdentifierPart, digit, Bool.or_true]
  rfl

/-- A sign stands by itself before the digits of a numeral. -/
theorem adds_minus {gap : List Char} (isPlainGap : gap ∈ plainGaps) :
    Adds NoMember NoMember (Stops isOperator) (gap ++ ['-']) fun line ↦
      [.single (markToken gap ['-'] (line + lineFeeds gap))] := by
  apply adds_token isPlainGap ⟨by decide, by decide, by decide⟩
  · exact fun line ↦ ⟨rfl, rfl⟩
  · exact fun line ↦ rfl
  · exact fun position rest _ stops ↦ lexeme_minus stops

/-- The operator of a range together with the sign of its stop. -/
def boundOperator (inclusive negative : Bool) : List Char :=
  rangeOperator inclusive ++ if negative then ['-'] else []

theorem adds_boundOperator (inclusive negative : Bool) :
    Adds NoMember NoMember (Stops fun c ↦ c == '.' || isOperator c)
      (boundOperator inclusive negative) fun line ↦
        [.single (markToken [] (boundOperator inclusive negative) line)] := by
  have operator {body : List Char} (isPlain : ∀ line, (markToken [] ('.' :: body) line).IsPlain)
      (noDot : ∀ line, (markToken [] ('.' :: body) line).isMark "." = false)
      (goesOn : ∀ rest, continuesDot (body ++ rest) = true)
      (all : ∀ c ∈ body, (c == '.' || isOperator c) = true) :
      Adds NoMember NoMember (Stops fun c ↦ c == '.' || isOperator c) ('.' :: body) fun line ↦
        [.single (markToken [] ('.' :: body) line)] :=
    adds_token noGap ⟨by decide, by decide, by decide⟩ isPlain noDot
      fun position rest _ stops ↦ lexeme_dots (goesOn rest) all stops
  cases inclusive
  all_goals
    cases negative
    all_goals
      exact operator (fun line ↦ ⟨rfl, rfl⟩) (fun line ↦ rfl) (fun rest ↦ rfl)
        (List.all_eq_true.mp (by decide))

theorem noBreak_unsigned (numeral : Numeral) : '\n' ∉ numeral.unsigned := by
  intro member
  have inside : '\n' ∈ numeral.text := List.mem_append_right _ member
  rcases numeral.mem_text inside with same | same | digit
  · exact absurd same (by decide)
  · exact absurd same (by decide)
  · exact absurd digit (by decide)

theorem stops_unsigned {condition : Char → Bool}
    (others : ∀ c, isAsciiDigit c = true → condition c = false) (numeral : Numeral)
    (rest : List Char) : Stops condition (numeral.unsigned ++ rest) := by
  obtain ⟨c, digits, same⟩ := List.exists_cons_of_ne_nil numeral.whole_ne_nil
  rw [Numeral.unsigned, same]
  exact stops_cons.mpr
    (others c (numeral.isAsciiDigit_whole c (same ▸ List.mem_cons_self)))

/-- The items of a numeral. -/
def numeralItems (gap : List Char) (numeral : Numeral) (line : Nat) : List Item :=
  if numeral.negative then
    [.single (markToken gap ['-'] line), .single (numberToken [] numeral.unsigned line)]
  else [.single (numberToken gap numeral.unsigned line)]

theorem adds_numeral {gap : List Char} (isPlainGap : gap ∈ plainGaps) (numeral : Numeral) :
    Adds NoMember NoMember (numberLength · = 0) (gap ++ numeral.text) fun line ↦
      numeralItems gap numeral (line + lineFeeds gap) := by
  unfold Numeral.text Numeral.sign numeralItems
  split
  · have sameLine (line : Nat) : line + lineFeeds (gap ++ ['-']) + lineFeeds [] =
        line + lineFeeds gap := by
      rw [lineFeeds_append, lineFeeds_eq_zero List.not_mem_nil,
        lineFeeds_eq_zero (by decide : '\n' ∉ ['-']), Nat.add_zero, Nat.add_zero]
    have both := (adds_minus isPlainGap).append (adds_unsigned noGap numeral) fun rest _ ↦
      stops_unsigned (fun _ ↦ not_isOperator_of_isAsciiDigit) numeral rest
    simp only [sameLine, List.nil_append] at both
    rw [List.append_assoc] at both
    exact both
  · exact adds_unsigned isPlainGap numeral

/-- The items of a range between two numerals. -/
def rangeItems (gap : List Char) (start : Numeral) (inclusive : Bool) (stop : Numeral)
    (line : Nat) : List Item :=
  numeralItems gap start line ++
    [.single (markToken [] (boundOperator inclusive stop.negative) line),
      .single (numberToken [] stop.unsigned line)]

/-- The sign of the stop of a range belongs to the operator. -/
theorem groupedAs_range {gap : List Char} (isPlainGap : gap ∈ plainGaps) (start : Numeral)
    (inclusive : Bool) (stop : Numeral) :
    GroupedAs (gap ++ (start.text ++ (rangeOperator inclusive ++ stop.text))) fun line ↦
      rangeItems gap start inclusive stop (line + lineFeeds gap) := by
  have shape : gap ++ (start.text ++ (rangeOperator inclusive ++ stop.text)) =
      gap ++ start.text ++ (boundOperator inclusive stop.negative ++ stop.unsigned) := by
    simp only [boundOperator, Numeral.text, Numeral.sign, List.append_assoc]
  have noBreak : '\n' ∉ boundOperator inclusive stop.negative := by
    cases inclusive
    all_goals
      cases stop.negative
      all_goals decide
  have startLine (line : Nat) : line + lineFeeds (gap ++ start.text) = line + lineFeeds gap := by
    have inside : '\n' ∉ start.text := by
      rw [Numeral.text, Numeral.sign]
      split
      · exact List.not_mem_append (by decide) (noBreak_unsigned start)
      · exact noBreak_unsigned start
    rw [lineFeeds_append, lineFeeds_eq_zero inside, Nat.add_zero]
  have noNumber (rest : List Char) :
      numberLength (boundOperator inclusive stop.negative ++ rest) = 0 := by
    cases inclusive
    all_goals rfl
  have operator := (adds_boundOperator inclusive stop.negative).append
    (adds_unsigned noGap stop) fun rest _ ↦ stops_unsigned (fun c digit ↦ by
      rw [not_isOperator_of_isAsciiDigit digit,
        beq_eq_false_iff_ne.mpr (ne_of_isAsciiDigit digit (by decide))]
      rfl) stop rest
  have whole := (adds_numeral isPlainGap start).append operator fun rest _ ↦ by
    rw [List.nil_append, List.append_assoc]
    exact noNumber _
  simp only [startLine, lineFeeds_eq_zero noBreak, lineFeeds_eq_zero List.not_mem_nil, Nat.add_zero,
    List.nil_append] at whole
  rw [shape]
  intro line position rest grouping noMember ends
  exact whole line position rest grouping noMember ends.number

/-! ## Brackets -/

/-- The pairs of brackets that make groups. -/
def brackets : List (Char × Char) :=
  [('(', ')'), ('[', ']'), ('\x7b', '\x7d')]

/-- What the code of grouping says about a pair of brackets. -/
structure IsBracket (opening closing : Char) : Prop where
  opens : ∀ gap line, (closingBracket? (markToken gap [opening] line)).isSome = true
  stays : ∀ gap line, closingBracket? (markToken gap [closing] line) = none
  closes : ∀ gap line, (markToken gap [closing] line).isClosing = true
  fits : ∀ gap last line final,
    (markToken last [closing] final).closes (markToken gap [opening] line) = true
  noDots : ∀ gap line, (markToken gap [opening] line).isMark "." = false ∧
    (markToken gap [closing] line).isMark "." = false
  single : opening ∈ singleMarks ∧ closing ∈ singleMarks
  delimits : closing ∈ delimiters

theorem isBracket_of_mem {opening closing : Char} (isPair : (opening, closing) ∈ brackets) :
    IsBracket opening closing := by
  simp only [brackets, List.mem_cons, List.not_mem_nil, or_false, Prod.mk.injEq] at isPair
  rcases isPair with ⟨rfl, rfl⟩ | ⟨rfl, rfl⟩ | ⟨rfl, rfl⟩
  all_goals
    exact ⟨fun _ _ ↦ rfl, fun _ _ ↦ rfl, fun _ _ ↦ rfl, fun _ _ _ _ ↦ rfl,
      fun _ _ ↦ ⟨rfl, rfl⟩, by decide, by decide⟩

section Groups

variable {opening closing : Char}

theorem Grouping.add_opening (isBracket : IsBracket opening closing) (grouping : Grouping)
    (gap : List Char) (line : Nat) :
    grouping.add (markToken gap [opening] line) =
      { grouping with
        openGroups := ⟨markToken gap [opening] line, grouping.items⟩ :: grouping.openGroups
        items := [] } := by
  rw [Grouping.add, if_pos (isBracket.opens gap line)]

theorem Grouping.add_closing (isBracket : IsBracket opening closing) {group : OpenGroup}
    {outer : List OpenGroup} {items : List Item} {malformed : Bool} {gap last : List Char}
    {line : Nat} (opened : group.opening = markToken gap [opening] line) (final : Nat) :
    (⟨group :: outer, items, malformed⟩ : Grouping).add (markToken last [closing] final) =
      ⟨outer, .group group.opening items.reverse (some (markToken last [closing] final)) ::
        group.before, malformed⟩ := by
  have fits : (markToken last [closing] final).closes group.opening = true := by
    rw [opened]
    exact isBracket.fits gap last line final
  have found : (group :: outer).findIdx? (fun group ↦
      (markToken last [closing] final).closes group.opening) = some 0 := by
    rw [List.findIdx?_cons, fits, if_pos rfl]
  rw [Grouping.add, isBracket.stays, isBracket.closes, Option.isSome_none,
    if_neg Bool.false_ne_true, if_pos rfl]
  simp only [found, Grouping.closeWith, fits, if_true, bne_self_eq_false, Bool.or_false]

/-- A text between brackets makes one group of its items. -/
theorem groupedAs_group (isPair : (opening, closing) ∈ brackets) {gap last text : List Char}
    (isPlainGap : gap ∈ plainGaps) (isPlainLast : last ∈ plainGaps) {items : Nat → List Item}
    (inside : GroupedAs text items) :
    GroupedAs (gap ++ opening :: (text ++ (last ++ [closing]))) fun line ↦
      [.group (markToken gap [opening] (line + lineFeeds gap)) (items (line + lineFeeds gap))
        (some (markToken last [closing]
          (line + lineFeeds gap + lineFeeds text + lineFeeds last)))] := by
  have isBracket := isBracket_of_mem isPair
  intro line position rest grouping noMember ends
  have first : lexeme position opening ([] ++ (text ++ (last ++ closing :: rest))) = (.mark, 0) :=
    lexeme_singleMark isBracket.single.1 _
  have endsInside : EndsToken (last ++ closing :: rest) := by
    simp only [plainGaps, List.mem_cons, List.not_mem_nil, or_false] at isPlainLast
    rcases isPlainLast with rfl | rfl | rfl
    · exact endsToken_delimiter isBracket.delimits rest
    · exact endsToken_delimiter (by decide) _
    · exact endsToken_delimiter (by decide) _
  have oneLine {bracket : Char} (isSingle : bracket ∈ singleMarks) (front : List Char) :
      lineFeeds (front ++ [bracket]) = lineFeeds front := by
    have noBreak : '\n' ∉ [bracket] := by
      have all : (singleMarks.all fun c ↦ c != '\n') = true := by decide
      have other : bracket ≠ '\n' := bne_iff_ne.mp (List.all_eq_true.mp all bracket isSingle)
      exact fun member ↦ other (List.mem_singleton.mp member).symm
    rw [lineFeeds_append, lineFeeds_eq_zero noBreak, Nat.add_zero]
  obtain ⟨middle, middleNoMember, passed⟩ := inside (line + lineFeeds gap)
    (position.after (markToken gap [opening] (line + lineFeeds gap))) (last ++ closing :: rest)
    ⟨⟨markToken gap [opening] (line + lineFeeds gap), grouping.items⟩ :: grouping.openGroups, [],
      grouping.malformed⟩ (after_ne_member position (isBracket.noDots _ _).1) endsInside
  have second : lexeme middle closing ([] ++ rest) = (.mark, 0) :=
    lexeme_singleMark isBracket.single.2 rest
  refine ⟨_, after_ne_member middle (isBracket.noDots last
    (line + lineFeeds gap + lineFeeds text + lineFeeds last)).2, ?_⟩
  have feeds : lineFeeds (gap ++ opening :: (text ++ (last ++ [closing]))) =
      lineFeeds gap + lineFeeds text + lineFeeds last := by
    rw [List.append_cons, lineFeeds_append, oneLine isBracket.single.1, lineFeeds_append,
      oneLine isBracket.single.2, Nat.add_assoc]
  calc (tokensFrom line position
        (gap ++ opening :: (text ++ (last ++ [closing])) ++ rest)).foldl Grouping.add grouping
    _ = (tokensFrom line position (gap ++ ([opening] ++
        (text ++ (last ++ closing :: rest))))).foldl Grouping.add grouping := by
      simp only [List.append_assoc, List.cons_append, List.nil_append]
    _ = (tokensFrom (line + lineFeeds gap + lineFeeds text) middle
        (last ++ ([closing] ++ rest))).foldl Grouping.add
        ⟨⟨markToken gap [opening] (line + lineFeeds gap), grouping.items⟩ :: grouping.openGroups,
          (items (line + lineFeeds gap)).reverse, grouping.malformed⟩ := by
      rw [foldl_tokensFrom isPlainGap (isVisible_of_mem_singleMarks isBracket.single.1) first,
        oneLine isBracket.single.1, ← markToken, Grouping.add_opening isBracket]
      rw [List.append_nil] at passed
      exact passed
    _ = _ := by
      rw [foldl_tokensFrom isPlainLast (isVisible_of_mem_singleMarks isBracket.single.2) second,
        oneLine isBracket.single.2, ← markToken, Grouping.add_closing isBracket rfl, feeds,
        List.reverse_reverse]
      simp only [Nat.add_assoc]
      rfl

end Groups

/-! ## Properties of items -/

/-- Whether the items that a text adds have a property, given the line that the text starts on. -/
def GroupedWith (text : List Char) (property : Nat → List Item → Prop) : Prop :=
  ∃ items, GroupedAs text items ∧ ∀ line, property line (items line)

section Properties

variable {first second text : List Char} {ofFirst ofSecond property whole : Nat → List Item → Prop}

theorem GroupedAs.groupedWith {items : Nat → List Item} (grouped : GroupedAs text items)
    (each : ∀ line, property line (items line)) : GroupedWith text property :=
  ⟨items, grouped, each⟩

theorem GroupedWith.mono (grouped : GroupedWith text property)
    (each : ∀ line items, property line items → whole line items) : GroupedWith text whole := by
  obtain ⟨items, grouped, holds⟩ := grouped
  exact ⟨items, grouped, fun line ↦ each line (items line) (holds line)⟩

theorem GroupedWith.append (groupedFirst : GroupedWith first ofFirst)
    (groupedSecond : GroupedWith second ofSecond) (ends : EndsBefore second)
    (each : ∀ line items others, ofFirst line items →
      ofSecond (line + lineFeeds first) others → whole line (items ++ others)) :
    GroupedWith (first ++ second) whole := by
  obtain ⟨items, grouped, holds⟩ := groupedFirst
  obtain ⟨others, groupedOthers, holdOthers⟩ := groupedSecond
  exact ⟨_, grouped.append groupedOthers ends,
    fun line ↦ each line _ _ (holds line) (holdOthers (line + lineFeeds first))⟩

theorem GroupedWith.group {opening closing : Char} (isPair : (opening, closing) ∈ brackets)
    {gap last : List Char} (isPlainGap : gap ∈ plainGaps) (isPlainLast : last ∈ plainGaps)
    (inside : GroupedWith text property)
    (each : ∀ line items final, property (line + lineFeeds gap) items →
      whole line [.group (markToken gap [opening] (line + lineFeeds gap)) items
        (some (markToken last [closing] final))]) :
    GroupedWith (gap ++ opening :: (text ++ (last ++ [closing]))) whole := by
  obtain ⟨items, grouped, holds⟩ := inside
  exact ⟨_, groupedAs_group isPair isPlainGap isPlainLast grouped,
    fun line ↦ each line _ _ (holds (line + lineFeeds gap))⟩

/-- A text that is grouped as a whole is the source of its items. -/
theorem GroupedWith.exists_itemsOf (grouped : GroupedWith text property) :
    ∃ items, itemsOf text = (items, false) ∧ property 1 items := by
  obtain ⟨items, grouped, holds⟩ := grouped
  obtain ⟨after, -, passed⟩ := grouped 1 .operand [] {} (fun same ↦ nomatch same) endsToken_nil
  have nothing : tokensFrom (1 + lineFeeds text) after [] = [] := by
    rw [tokensFrom]
    rfl
  refine ⟨items 1, ?_, holds 1⟩
  rw [List.append_nil, nothing, List.foldl_nil, List.append_nil] at passed
  rw [itemsOf, tokens, passed]
  simp only [Grouping.closeAll, List.reverse_reverse, List.isEmpty_nil, Bool.not_true,
    Bool.or_self]

end Properties

end ViewPreview
