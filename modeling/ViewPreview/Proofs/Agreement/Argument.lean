import ViewPreview.Proofs.Agreement.Outline
import ViewPreview.Proofs.Token.Call

/-!
# Arguments of Simple Views as Items

The arguments of a simple view are grouped between their commas as they were written: each has the
label and the text of its operand, and its items are an expression only if its value is the name of
a view.
-/

namespace ViewPreview.Agreement

open ViewPreview.Text ViewPreview.Call ViewPreview.Number ViewPreview.Outline

/-! ## Items of one argument -/

/-- Whether items are those of a text behind a gap, with no comma that would end an argument. -/
structure Spells (gap text : List Char) (items : List Item) : Prop where
  written : Item.writtenAll items = gap ++ text
  starts : ∃ item rest, items = item :: rest ∧ item.first.gap = gap
  noComma : ∀ item ∈ items, item.isMark "," = false
  sound : Sound items

theorem writtenAll_append (items others : List Item) :
    Item.writtenAll (items ++ others) = Item.writtenAll items ++ Item.writtenAll others := by
  induction items with
  | nil => rfl
  | cons item items ih =>
    rw [List.cons_append, Item.writtenAll, Item.writtenAll, ih, List.append_assoc]

theorem Spells.textOf_partsOf {gap text : List Char} {items : List Item}
    (spells : Spells gap text items) : Part.textOf (partsOf items) = text := by
  obtain ⟨item, rest, rfl, starts⟩ := spells.starts
  rw [Part.textOf, map_item_partsOf]
  show (Item.writtenAll (item :: rest)).drop item.first.gap.length = text
  rw [spells.written, starts, List.drop_left]

/-- Whether items are those of a value. -/
structure IsValueItems (gap : List Char) (atom : Atom) (items : List Item) : Prop
    extends Spells gap atom.chars items where
  unlabeled : argumentValue (partsOf items) = partsOf items
  noClosure : ∀ item, items = [item] → item.isGroup "\x7b" = false
  viewed : optionalView? (wholeExpression? (partsOf items)) =
    atom.view?.map fun view ↦ ⟨view, []⟩

/-- Items that begin with no word are no expression. -/
theorem isValueItems_of_word? (atom : Atom) {gap : List Char} {item : Item} {rest : List Item}
    (spells : Spells gap atom.chars (item :: rest)) (noWord : item.word? = none)
    (noBrace : item.isGroup "\x7b" = false) (noView : atom.view? = none) :
    IsValueItems gap atom (item :: rest) where
  toSpells := spells
  unlabeled := by
    rw [partsOf]
    cases rest with
    | nil => rfl
    | cons next rest =>
      rw [partsOf, argumentValue, item_part, noWord]
      rfl
  noClosure := by
    rintro first same
    rw [← (List.cons.inj same).1]
    exact noBrace
  viewed := by
    rw [wholeExpression?, partsOf, leadingExpression?, item_part, noWord, noView]
    rfl

theorem spells_single {kind : TokenKind} {gap text : List Char} {line : Nat}
    (noComma : (⟨kind, gap, text, line⟩ : Token).isMark "," = false) :
    Spells gap text [.single ⟨kind, gap, text, line⟩] where
  written := List.append_nil _
  starts := ⟨_, [], rfl, rfl⟩
  noComma := List.forall_mem_singleton.mpr noComma
  sound := sound_singles [_]

theorem Spells.append {gap space first second : List Char} {items others : List Item}
    (spells : Spells gap first items) (spellsOthers : Spells space second others) :
    Spells gap (first ++ (space ++ second)) (items ++ others) where
  written := by
    rw [writtenAll_append, spells.written, spellsOthers.written, List.append_assoc]
  starts := by
    obtain ⟨item, rest, rfl, starts⟩ := spells.starts
    exact ⟨item, rest ++ others, rfl, starts⟩
  noComma := List.forall_mem_append.mpr ⟨spells.noComma, spellsOthers.noComma⟩
  sound := spells.sound.append spellsOthers.sound

theorem noComma_of_kind {token : Token} (noMark : token.kind ≠ .mark) :
    token.isMark "," = false :=
  Token.isMark_eq_false_of_kind noMark ","

theorem spells_name (gap : List Char) (name : Identifier) (line : Nat) :
    Spells gap name.chars [.single (nameToken gap name line)] :=
  spells_single (noComma_of_kind TokenKind.noConfusion)

theorem spells_digits (gap : List Char) (value : Numeral) (line : Nat) :
    Spells gap value.unsigned [.single (numberToken gap value.unsigned line)] :=
  spells_single (noComma_of_kind TokenKind.noConfusion)

theorem spells_dot (gap : List Char) (line : Nat) :
    Spells gap ['.'] [.single (markToken gap ['.'] line)] :=
  spells_single rfl

theorem spells_numeral (gap : List Char) (value : Numeral) (line : Nat) :
    Spells gap value.text (numeralItems gap value line) := by
  have sign : Spells gap ['-'] [.single (markToken gap ['-'] line)] := spells_single rfl
  unfold Numeral.text Numeral.sign numeralItems
  split
  · have spells : Spells gap (['-'] ++ ([] ++ value.unsigned)) _ :=
      sign.append (spells_digits [] value line)
    exact spells
  · exact spells_digits gap value line

theorem numeralItems_eq_cons (gap : List Char) (value : Numeral) (line : Nat) :
    ∃ item rest, numeralItems gap value line = item :: rest ∧ item.word? = none ∧
      item.isGroup "\x7b" = false := by
  unfold numeralItems
  split
  · exact ⟨_, _, rfl, rfl, rfl⟩
  · exact ⟨_, _, rfl, rfl, rfl⟩

theorem spells_range (gap : List Char) (bounds : IntegerRange) (line : Nat) :
    Spells gap (rangeText bounds)
      (rangeItems gap (integerNumeral bounds.start.toInt) bounds.inclusive
        (integerNumeral bounds.stop.toInt) line) := by
  obtain ⟨start, stop, inclusive⟩ := bounds
  have operator : Spells [] (boundOperator inclusive (integerNumeral stop.toInt).negative)
      [.single (markToken [] (boundOperator inclusive (integerNumeral stop.toInt).negative)
        line)] := by
    apply spells_single
    cases inclusive
    all_goals
      cases (integerNumeral stop.toInt).negative
      all_goals rfl
  have stopText : rangeOperator inclusive ++ integerChars stop.toInt =
      boundOperator inclusive (integerNumeral stop.toInt).negative ++
        (integerNumeral stop.toInt).unsigned := by
    rw [← text_integerNumeral, boundOperator, Numeral.text, Numeral.sign, List.append_assoc]
  have whole := (spells_numeral gap (integerNumeral start.toInt) line).append
    (operator.append (spells_digits [] (integerNumeral stop.toInt) line))
  rw [text_integerNumeral, List.nil_append, List.nil_append, ← stopText] at whole
  exact whole

/-! ## Items of values -/

theorem isValueItems_numeral (gap : List Char) (value : Numeral) (line : Nat) :
    IsValueItems gap (.numeral value) (numeralItems gap value line) := by
  have spells := spells_numeral gap value line
  obtain ⟨item, rest, same, noWord, noBrace⟩ := numeralItems_eq_cons gap value line
  rw [same] at spells ⊢
  exact isValueItems_of_word? (.numeral value) spells noWord noBrace rfl

theorem isValueItems_range (gap : List Char) (bounds : IntegerRange) (line : Nat) :
    IsValueItems gap (.range bounds)
      (rangeItems gap (integerNumeral bounds.start.toInt) bounds.inclusive
        (integerNumeral bounds.stop.toInt) line) := by
  have spells := spells_range gap bounds line
  obtain ⟨item, rest, same, noWord, noBrace⟩ :=
    numeralItems_eq_cons gap (integerNumeral bounds.start.toInt) line
  rw [rangeItems, same, List.cons_append] at spells ⊢
  exact isValueItems_of_word? (.range bounds) spells noWord noBrace rfl

/-- The members of a path follow its first name. -/
def pathFollowers (members : List Identifier) (line : Nat) : List Follower :=
  members.map (Follower.member · line)

theorem spells_path (gap : List Char) (base : Identifier) (members : List Identifier)
    (line : Nat) :
    Spells gap (pathText base members)
      (.single (nameToken gap base line) :: followerItems (pathFollowers members line)) := by
  induction members using List.reverseRecOn with
  | nil =>
    have spells := spells_name gap base line
    rw [pathText, List.flatMap_nil, List.append_nil]
    exact spells
  | append_singleton members member ih =>
    have last := ih.append ((spells_dot [] line).append (spells_name [] member line))
    have text : pathText base (members ++ [member]) =
        pathText base members ++ ([] ++ (['.'] ++ ([] ++ member.chars))) := by
      rw [pathText, List.flatMap_append, List.flatMap_singleton, ← List.append_assoc]
      rfl
    have items : followerItems (pathFollowers (members ++ [member]) line) =
        followerItems (pathFollowers members line) ++
          ([.single (markToken [] ['.'] line)] ++ [.single (nameToken [] member line)]) := by
      rw [pathFollowers, List.map_append, followerItems, List.flatMap_append]
      rfl
    rw [text, items]
    exact last

theorem chain_pathFollowers (members : List Identifier) (line : Nat) :
    (Suffix.chain line ((pathFollowers members line).map Follower.suffix)).1 = none := by
  cases members with
  | nil => rfl
  | cons member members => rfl

theorem isValueItems_path (gap : List Char) (base : Identifier) (members : List Identifier)
    (noView : members ≠ [] → namesView base.string false = false) (line : Nat) :
    IsValueItems gap (.path base members noView)
      (.single (nameToken gap base line) :: followerItems (pathFollowers members line)) where
  toSpells := spells_path gap base members line
  unlabeled := by
    cases members with
    | nil => rfl
    | cons member members => rfl
  noClosure := by
    rintro item same
    rw [← (List.cons.inj same).1]
    rfl
  viewed := by
    rw [wholeExpression?, partsOf, leadingExpression?, split_followers]
    show optionalView? (some ⟨base.string,
      (Suffix.chain line ((pathFollowers members line).map Follower.suffix)).1,
      (Suffix.chain line ((pathFollowers members line).map Follower.suffix)).2⟩) = _
    rw [optionalView?, chain_pathFollowers, Expression.view?, Option.isSome_none, Atom.view?]
    split
    · next named =>
      cases members with
      | nil =>
        rw [headView]
        show some (followLinks _ []) = _
        rw [followLinks]
        rfl
      | cons member members =>
        rw [noView (List.cons_ne_nil _ _)] at named
        cases named
    · rfl

/-! ## Values -/

theorem groupedWith_case {gap : List Char} (isPlainGap : gap ∈ plainGaps) (name : Identifier) :
    GroupedWith (gap ++ caseText name) fun _ ↦ IsValueItems gap (.enumCase name) := by
  apply (groupedAs_member isPlainGap name).groupedWith
  intro line
  have spells : Spells gap (['.'] ++ ([] ++ name.chars)) _ :=
    (spells_dot gap (line + lineFeeds gap)).append
      (spells_name [] name (line + lineFeeds gap))
  exact isValueItems_of_word? (.enumCase name) spells rfl rfl rfl

theorem endsBefore_members (members : List Identifier) :
    EndsBefore (members.flatMap caseText) := by
  cases members with
  | nil => exact endsBefore_nil
  | cons member members =>
    intro rest _
    rw [List.flatMap_cons, List.append_assoc]
    exact endsToken_member member _

theorem groupedAs_members (members : List Identifier) :
    GroupedAs (members.flatMap caseText) fun line ↦
      followerItems (pathFollowers members line) := by
  induction members with
  | nil => exact groupedAs_nil
  | cons member members ih =>
    have oneLine : lineFeeds ([] ++ '.' :: member.chars) = 0 :=
      lineFeeds_eq_zero (noBreak_of_isTokenPart (isTokenPart_caseText member))
    have both := (groupedAs_member noGap member).append ih (endsBefore_members members)
    simp only [oneLine, Nat.add_zero] at both
    exact both

theorem groupedAs_path {gap : List Char} (isPlainGap : gap ∈ plainGaps) (base : Identifier)
    (members : List Identifier) :
    GroupedAs (gap ++ pathText base members) fun line ↦
      .single (nameToken gap base (line + lineFeeds gap)) ::
        followerItems (pathFollowers members (line + lineFeeds gap)) := by
  have sameLine (line : Nat) : line + lineFeeds (gap ++ base.chars) = line + lineFeeds gap := by
    rw [lineFeeds_append, lineFeeds_eq_zero (base.not_mem_chars (by decide)), Nat.add_zero]
  have both := (groupedAs_name isPlainGap base).append (groupedAs_members members)
    (endsBefore_members members)
  simp only [sameLine] at both
  rw [pathText, ← List.append_assoc]
  exact both

/-! ## Lists of arguments -/

/-- Whether items are those of several things between commas, the first one behind a gap. -/
inductive Listed {α : Type} (property : List Char → α → List Item → Prop) :
    List Char → List α → List Item → Prop
  | last {gap : List Char} {thing : α} {items : List Item} (isLast : property gap thing items) :
      Listed property gap [thing] items
  | cons {gap : List Char} {thing : α} {others : List α} {items rest : List Item} (line : Nat)
      (isFirst : property gap thing items) (isRest : Listed property [' '] others rest) :
      Listed property gap (thing :: others)
        (items ++ .single (markToken [] [','] line) :: rest)

theorem groupedWith_arguments {α : Type} {written : α → WrittenArgument}
    {property : List Char → α → List Item → Prop}
    (each : ∀ thing, ∀ gap ∈ plainGaps,
      GroupedWith (gap ++ (written thing).text) fun _ ↦ property gap thing)
    (first : α) (others : List α) {gap : List Char} (isPlainGap : gap ∈ plainGaps) :
    GroupedWith (gap ++ argumentsText ((first :: others).map written)) fun _ ↦
      Listed property gap (first :: others) := by
  induction others generalizing first gap with
  | nil => exact (each first gap isPlainGap).mono fun _ _ ↦ .last
  | cons second others ih =>
    have isSpace : [' '] ∈ plainGaps := by decide
    have comma : GroupedWith [','] fun _ items ↦
        ∃ line, items = [.single (markToken [] [','] line)] :=
      (groupedAs_mark (by decide)).groupedWith fun line ↦ ⟨line, rfl⟩
    have rest : GroupedWith
        ([','] ++ ([' '] ++ argumentsText ((second :: others).map written))) fun _ items ↦
          ∃ line rest, items = .single (markToken [] [','] line) :: rest ∧
            Listed property [' '] (second :: others) rest := by
      apply comma.append (ih second isSpace) (endsBefore_delimiter (by decide) _)
      rintro _ _ rest ⟨line, rfl⟩ listed
      exact ⟨line, rest, rfl, listed⟩
    have whole : GroupedWith (gap ++ (written first).text ++
        ([','] ++ ([' '] ++ argumentsText ((second :: others).map written)))) fun _ ↦
          Listed property gap (first :: second :: others) := by
      apply (each first gap isPlainGap).append rest (endsBefore_delimiter (by decide) _)
      rintro _ items _ isFirst ⟨line, rest, rfl, listed⟩
      exact .cons line isFirst listed
    rw [List.append_assoc] at whole
    exact whole

theorem sound_comma (line : Nat) {rest : List Item} (sound : Sound rest) :
    Sound (.single (markToken [] [','] line) :: rest) :=
  (sound_singles [markToken [] [','] line]).append sound

/-- Items between commas spell the whole list. -/
theorem Listed.spells {α : Type} {written : α → WrittenArgument} {gap : List Char} {things : List α}
    {items : List Item}
    (listed : Listed (fun gap thing ↦ Spells gap (written thing).text) gap things items) :
    Sound items ∧ Item.writtenAll items = gap ++ argumentsText (things.map written) := by
  induction listed with
  | last isLast => exact ⟨isLast.sound, isLast.written⟩
  | @cons gap thing others items rest line isFirst isRest ih =>
    refine ⟨isFirst.sound.append (sound_comma line ih.1), ?_⟩
    have comma : Item.written (.single (markToken [] [','] line)) = [','] := rfl
    have shape : argumentsText ((thing :: others).map written) =
        (written thing).text ++ ',' :: ' ' :: argumentsText (others.map written) := by
      cases isRest with
      | last _ => rfl
      | cons _ _ _ => rfl
    rw [writtenAll_append, isFirst.written, Item.writtenAll, comma, ih.2, shape, List.append_assoc]
    rfl

theorem groupedWith_cases (names : List Identifier) :
    GroupedWith (argumentsText (caseArguments names)) fun _ items ↦
      Sound items ∧ Item.writtenAll items = argumentsText (caseArguments names) := by
  cases names with
  | nil => exact groupedAs_nil.groupedWith fun _ ↦ ⟨sound_nil, rfl⟩
  | cons first others =>
    have each (name : Identifier) (gap : List Char) (isPlainGap : gap ∈ plainGaps) :
        GroupedWith (gap ++ (WrittenArgument.plain (isValue_caseText name)).text) fun _ ↦
          Spells gap (WrittenArgument.plain (isValue_caseText name)).text :=
      (groupedWith_case isPlainGap name).mono fun _ _ isValueItems ↦ isValueItems.toSpells
    exact (groupedWith_arguments each first others noGap).mono fun _ _ listed ↦ listed.spells

theorem groupedWith_caseList {gap : List Char} (isPlainGap : gap ∈ plainGaps)
    (names : List Identifier) :
    GroupedWith (gap ++ caseListText names) fun _ ↦ IsValueItems gap (.caseList names) := by
  apply GroupedWith.group (by decide) isPlainGap noGap (groupedWith_cases names)
  rintro line items final ⟨sound, written⟩
  refine isValueItems_of_word? (.caseList names) ⟨?_, ⟨_, [], rfl, rfl⟩, ?_, ?_⟩ rfl rfl rfl
  · show gap ++ ['['] ++ Item.writtenAll items ++ ([] ++ [']']) ++ [] = gap ++ caseListText names
    rw [written, List.append_nil, List.append_assoc, List.append_assoc]
    rfl
  · exact List.forall_mem_singleton.mpr rfl
  · exact sound.group rfl _

/-- The items of a value are found whatever stands before it. -/
theorem groupedWith_value {gap : List Char} (isPlainGap : gap ∈ plainGaps) (atom : Atom) :
    GroupedWith (gap ++ atom.chars) fun _ ↦ IsValueItems gap atom := by
  cases atom with
  | text content =>
    apply (groupedAs_string isPlainGap content).groupedWith
    intro line
    exact isValueItems_of_word? (.text content)
      (spells_single (noComma_of_kind TokenKind.noConfusion)) rfl rfl rfl
  | numeral value =>
    have grouped : GroupedAs (gap ++ value.text) _ :=
      fun line position rest grouping noMember ends ↦
        adds_numeral isPlainGap value line position rest grouping noMember ends.number
    exact grouped.groupedWith fun line ↦ isValueItems_numeral gap value _
  | range bounds =>
    have grouped := groupedAs_range isPlainGap (integerNumeral bounds.start.toInt) bounds.inclusive
      (integerNumeral bounds.stop.toInt)
    rw [text_integerNumeral, text_integerNumeral] at grouped
    exact grouped.groupedWith fun line ↦ isValueItems_range gap bounds _
  | enumCase name => exact groupedWith_case isPlainGap name
  | caseList names => exact groupedWith_caseList isPlainGap names
  | path base members noView =>
    have grouped := groupedAs_path isPlainGap base members
    exact grouped.groupedWith fun line ↦ isValueItems_path gap base members noView _

/-! ## Operands -/

/-- Whether items are those of an operand. -/
structure IsOperandItems (gap : List Char) (operand : Operand) (items : List Item) : Prop
    extends Spells gap operand.written.text items where
  outlined : IsOperand (argumentOutline (partsOf items)).1 operand
  noClosure : (argumentOutline (partsOf items)).2 = none

theorem isOperandItems_of_value {gap space : List Char} {operand : Operand}
    {items valueItems : List Item} (spells : Spells gap operand.written.text items)
    (value : argumentValue (partsOf items) = partsOf valueItems)
    (isValueItems : IsValueItems space operand.atom valueItems) :
    IsOperandItems gap operand items where
  toSpells := spells
  outlined := by
    have text : Call.Argument.ofText (Part.textOf (partsOf items)) = operand.written.argument := by
      rw [spells.textOf_partsOf, ← operand.written.text_spelled]
      exact operand.written.spelled.ofText_text
    apply isOperand_of_expression
    · rw [argumentOutline, text]
      rfl
    · rw [argumentOutline, value]
      exact isValueItems.viewed
  noClosure := by
    rw [argumentOutline, value]
    cases valueItems with
    | nil => rfl
    | cons item rest =>
      cases rest with
      | nil =>
        have noBrace := isValueItems.noClosure item rfl
        simp only [partsOf, item_part, noBrace]
        rfl
      | cons next rest => rfl

theorem groupedWith_operand (operand : Operand) (gap : List Char) (isPlainGap : gap ∈ plainGaps) :
    GroupedWith (gap ++ operand.written.text) fun _ ↦ IsOperandItems gap operand := by
  obtain ⟨label, atom⟩ := operand
  cases label with
  | none =>
    exact (groupedWith_value isPlainGap atom).mono fun _ items isValueItems ↦
      isOperandItems_of_value isValueItems.toSpells isValueItems.unlabeled isValueItems
  | some label =>
    have marked : GroupedWith (gap ++ label.chars ++ [':']) fun _ items ↦
        ∃ line last, items =
          [.single (nameToken gap label line), .single (markToken [] [':'] last)] := by
      have both := (groupedAs_name isPlainGap label).append (groupedAs_mark (by decide : ':' ∈ _))
        (endsBefore_delimiter (by decide) [])
      exact both.groupedWith fun line ↦ ⟨_, _, rfl⟩
    have isSpace : [' '] ∈ plainGaps := by decide
    have whole : GroupedWith (gap ++ label.chars ++ [':'] ++ ([' '] ++ atom.chars)) fun _ ↦
        IsOperandItems gap ⟨some label, atom⟩ := by
      apply marked.append (groupedWith_value isSpace atom) (endsBefore_delimiter (by decide) _)
      rintro _ _ valueItems ⟨line, last, rfl⟩ isValueItems
      have colon : Spells [] [':'] [.single (markToken [] [':'] last)] := spells_single rfl
      have spells := (spells_name gap label line).append (colon.append isValueItems.toSpells)
      exact isOperandItems_of_value spells rfl isValueItems
    rw [List.append_assoc, List.append_assoc] at whole
    exact whole

/-! ## Arguments of a call -/

theorem splitCommas_of_forall {parts : List Part}
    (noComma : ∀ part ∈ parts, part.item.isMark "," = false) :
    splitCommas Part.item parts = [parts] := by
  induction parts with
  | nil => rfl
  | cons part parts ih =>
    obtain ⟨first, others⟩ := List.forall_mem_cons.mp noComma
    rw [splitCommas, first, if_neg Bool.false_ne_true, ih others]

theorem splitCommas_append {parts : List Part}
    (noComma : ∀ part ∈ parts, part.item.isMark "," = false) {comma : Part}
    (isComma : comma.item.isMark "," = true) (rest : List Part) :
    splitCommas Part.item (parts ++ comma :: rest) =
      parts :: splitCommas Part.item rest := by
  induction parts with
  | nil => rw [List.nil_append, splitCommas, isComma, if_pos rfl]
  | cons part parts ih =>
    obtain ⟨first, others⟩ := List.forall_mem_cons.mp noComma
    rw [List.cons_append, splitCommas, first, if_neg Bool.false_ne_true, ih others]

section Operand

variable {gap : List Char} {operand : Operand} {items : List Item}

theorem Spells.noComma_partsOf {text : List Char} (spells : Spells gap text items) :
    ∀ part ∈ partsOf items, part.item.isMark "," = false := by
  intro part member
  rw [partsOf_eq_map] at member
  obtain ⟨item, inside, rfl⟩ := List.mem_map.mp member
  rw [item_part]
  exact spells.noComma item inside

theorem Spells.isEmpty_partsOf {text : List Char} (spells : Spells gap text items) :
    (partsOf items).isEmpty = false := by
  obtain ⟨item, rest, rfl, -⟩ := spells.starts
  rfl

theorem IsOperandItems.argumentsCall_eq (isOperandItems : IsOperandItems gap operand items) :
    argumentsCall (partsOf items) = ⟨[(argumentOutline (partsOf items)).1], []⟩ := by
  rw [argumentsCall, splitCommas_of_forall isOperandItems.noComma_partsOf, List.filter_cons,
    isOperandItems.isEmpty_partsOf, if_pos (by decide), List.filter_nil, List.map_singleton,
    List.map_singleton, List.filterMap_cons, isOperandItems.noClosure]
  rfl

theorem IsOperandItems.argumentsCall_comma (isOperandItems : IsOperandItems gap operand items)
    (line : Nat) (rest : List Item) :
    argumentsCall (partsOf (items ++ .single (markToken [] [','] line) :: rest)) =
      ⟨(argumentOutline (partsOf items)).1 :: (argumentsCall (partsOf rest)).arguments,
        (argumentsCall (partsOf rest)).closures⟩ := by
  have isComma : (Item.single (markToken [] [','] line)).part.item.isMark "," = true := rfl
  rw [argumentsCall, partsOf_append, partsOf,
    splitCommas_append isOperandItems.noComma_partsOf isComma, List.filter_cons,
    isOperandItems.isEmpty_partsOf, if_pos (by decide), List.map_cons, List.map_cons,
    List.filterMap_cons, isOperandItems.noClosure]
  rfl

end Operand

/-- The arguments between commas are the outlines of the operands. -/
theorem Listed.areOperands {gap : List Char} {operands : List Operand} {items : List Item}
    (listed : Listed IsOperandItems gap operands items) :
    Sound items ∧
      ∃ outlines, argumentsCall (partsOf items) = ⟨outlines, []⟩ ∧
        AreOperands outlines operands := by
  induction listed with
  | last isLast =>
    exact ⟨isLast.sound, _, isLast.argumentsCall_eq, .cons isLast.outlined .nil⟩
  | cons line isFirst _ ih =>
    obtain ⟨sound, outlines, call, areOperands⟩ := ih
    refine ⟨isFirst.sound.append (sound_comma line sound), _, ?_,
      .cons isFirst.outlined areOperands⟩
    rw [isFirst.argumentsCall_comma, call]

/-- The arguments of a call are grouped as the outlines of its operands. -/
theorem groupedWith_operands (operands : List Operand) :
    GroupedWith (operandsText operands) fun _ items ↦
      Sound items ∧
        ∃ outlines, argumentsCall (partsOf items) = ⟨outlines, []⟩ ∧
          AreOperands outlines operands := by
  cases operands with
  | nil => exact groupedAs_nil.groupedWith fun _ ↦ ⟨sound_nil, [], rfl, .nil⟩
  | cons first others =>
    exact (groupedWith_arguments groupedWith_operand first others noGap).mono
      fun _ _ listed ↦ listed.areOperands

end ViewPreview.Agreement
