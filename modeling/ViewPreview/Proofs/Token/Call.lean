import ViewPreview.Proofs.Token.Getter
import ViewPreview.Proofs.Token.Grouping

/-!
# Calls as Statements

Statements that are calls on lines of their own: a capitalized name, and behind it on the same line
groups and names of members.  Such statements are told apart by their lines alone, each is an
expression as a whole, and a closure around them has no parameter.
-/

namespace ViewPreview

open ViewPreview.Text ViewPreview.Outline

/-! ## Parts -/

theorem partsOf_eq_map (items : List Item) : partsOf items = items.map Item.part := by
  induction items with
  | nil => rfl
  | cons item items ih => rw [partsOf, ih, List.map_cons]

theorem partsOf_append (items others : List Item) :
    partsOf (items ++ others) = partsOf items ++ partsOf others := by
  rw [partsOf_eq_map, partsOf_eq_map, partsOf_eq_map, List.map_append]

@[simp] theorem item_part (item : Item) : item.part.item = item := by
  cases item with
  | single token => rfl
  | group opening items closing =>
    rw [Item.part, groupPart]
    split
    · rfl
    · rfl

theorem map_item_partsOf (items : List Item) : (partsOf items).map Part.item = items := by
  induction items with
  | nil => rfl
  | cons item items ih => rw [partsOf, List.map_cons, item_part, ih]

/-- Whether nothing was left out in any of some items. -/
def Sound (items : List Item) : Prop :=
  ∀ part ∈ partsOf items, part.malformed = false

theorem sound_nil : Sound [] :=
  List.forall_mem_nil _

theorem Sound.append {items others : List Item} (sound : Sound items) (othersSound : Sound others) :
    Sound (items ++ others) := by
  rw [Sound, partsOf_append]
  exact List.forall_mem_append.mpr ⟨sound, othersSound⟩

theorem sound_singles (tokens : List Token) : Sound (tokens.map .single) := by
  induction tokens with
  | nil => exact sound_nil
  | cons token tokens ih => exact List.forall_mem_cons.mpr ⟨rfl, ih⟩

theorem Sound.any_malformed {items : List Item} (sound : Sound items) :
    (partsOf items).any Part.malformed = false := by
  rw [List.any_eq_false]
  intro part member
  rw [sound part member]
  exact Bool.false_ne_true

/-- A group in parentheses or brackets makes a call of its items as arguments. -/
theorem part_arguments {opening : Token} (noBrace : opening.isMark "\x7b" = false)
    (items : List Item) (closing : Option Token) :
    (Item.group opening items closing).part =
      ⟨.group opening items closing, argumentsCall (partsOf items),
        (partsOf items).any Part.malformed⟩ := by
  rw [Item.part, groupPart, noBrace]
  rfl

theorem Sound.group {opening : Token} (noBrace : opening.isMark "\x7b" = false)
    {items : List Item} (sound : Sound items) (closing : Option Token) :
    Sound [.group opening items closing] := by
  refine List.forall_mem_singleton.mpr ?_
  rw [part_arguments noBrace]
  exact sound.any_malformed

/-- A group in braces makes a closure of its items. -/
theorem part_closure {opening : Token} (isBrace : opening.isMark "\x7b" = true)
    (items : List Item) (closing : Option Token) :
    (Item.group opening items closing).part =
      ⟨.group opening items closing, { closures := [closureOutline (partsOf items)] },
        (partsOf items).any Part.malformed ||
          (statementsOf .block Part.item (splitClosure (partsOf items)).2).any holdsJoined⟩ := by
  rw [Item.part, groupPart, isBrace]
  rfl

theorem isWord_nameToken_iff {gap : List Char} {name : Identifier} {line : Nat} {word : String} :
    (nameToken gap name line).isWord word = true ↔ name.string = word := by
  show ((TokenKind.word == .word) && name.chars == word.toList) = true ↔
    String.ofList name.chars = word
  rw [beq_self_eq_true, Bool.true_and, beq_iff_eq]
  constructor
  · intro same
    rw [same, String.ofList_toList]
  · rintro rfl
    rw [String.toList_ofList]

/-! ## Capitalized names -/

/-- Whether a text begins with a capital letter. -/
def isCapitalized (text : List Char) : Bool :=
  text.head?.any fun c ↦ 'A' ≤ c && c ≤ 'Z'

section Capitalized

variable {gap : List Char} {name : Identifier} {line : Nat}
  (capitalized : isCapitalized name.chars = true)

include capitalized

theorem isWord_capitalized {word : String} (small : isCapitalized word.toList = false) :
    (nameToken gap name line).isWord word = false := by
  rw [Token.isWord, nameToken, Bool.and_eq_false_iff]
  right
  rw [beq_eq_false_iff_ne]
  intro same
  have text : name.chars = word.toList := same
  rw [text, small] at capitalized
  exact Bool.noConfusion capitalized

theorem isWordOf_capitalized {words : List String}
    (small : (words.all fun word ↦ !isCapitalized word.toList) = true) :
    (Item.single (nameToken gap name line)).isWordOf words = false := by
  rw [Item.isWordOf, List.any_eq_false]
  intro word member
  have isSmall := List.all_eq_true.mp small word member
  rw [Bool.not_eq_true'] at isSmall
  rw [Item.isWord, isWord_capitalized capitalized isSmall]
  exact Bool.false_ne_true

/-- A capitalized name begins a statement as an expression does. -/
theorem afterFirstWord_capitalized {next : Option Item}
    (noLabel : next.any (·.isMark ":") = false) :
    Stage.afterFirstWord .block (.single (nameToken gap name line)) next = .value := by
  have word {word : String} (small : isCapitalized word.toList = false) :
      (Item.single (nameToken gap name line)).isWord word = false :=
    isWord_capitalized capitalized small
  have words {words : List String}
      (small : (words.all fun word ↦ !isCapitalized word.toList) = true) :
      (Item.single (nameToken gap name line)).isWordOf words = false :=
    isWordOf_capitalized capitalized small
  have noDeclaration :
      Stage.afterDeclarationWord? (.single (nameToken gap name line)) next = none := by
    unfold Stage.afterDeclarationWord?
    rw [words (by decide), words (by decide), word (by decide), word (by decide),
      words (by decide), word (by decide), word (by decide), word (by decide)]
    rfl
  have noOperator : Stage.afterOperandWord (.single (nameToken gap name line)) = .value := by
    unfold Stage.afterOperandWord
    rw [word (by decide), word (by decide), word (by decide), word (by decide)]
    rfl
  unfold Stage.afterFirstWord
  simp only [noDeclaration]
  unfold Stage.afterStatementWord
  rw [words (by decide), word (by decide), word (by decide), word (by decide), word (by decide),
    words (by decide), noLabel, noOperator]
  rfl

end Capitalized

/-! ## What follows a name -/

/-- What may stand behind a name on its line: a group, or a dot and the name of a member. -/
inductive Follower where
  | group (opening : Token) (items : List Item) (closing : Option Token)
      (sameLine : opening.startsLine = false)
  | member (name : Identifier) (line : Nat)

namespace Follower

/-- The items of a follower. -/
def items : Follower → List Item
  | .group opening items closing _ => [.group opening items closing]
  | .member name line => [.single (markToken [] ['.'] line), .single (nameToken [] name line)]

/-- The suffix that a follower makes. -/
def suffix : Follower → Suffix
  | .group opening items closing _ => .call (Item.group opening items closing).part.call
  | .member name _ => .member name.string

end Follower

/-- The items of successive followers. -/
def followerItems (followers : List Follower) : List Item :=
  followers.flatMap Follower.items

theorem split_grouped {part : Part} (isGrouped : part.item.isGrouped = true) (parts : List Part) :
    Suffix.split (part :: parts) =
      (.call part.call :: (Suffix.split parts).1, (Suffix.split parts).2) := by
  have noMark : Suffix.isOptionalMark part.item = false := by
    cases same : part.item with
    | single token =>
      rw [same] at isGrouped
      cases isGrouped
    | group opening items closing => rfl
  refine (Suffix.split.eq_def _).trans ?_
  cases parts with
  | nil =>
    simp only [noMark, isGrouped, Bool.false_eq_true, if_false, if_true]
    rfl
  | cons next parts => simp only [noMark, isGrouped, Bool.false_eq_true, if_false, if_true]

/-- A mark is no group, and no other mark. -/
theorem ungrouped_of_isMark {item : Item} {mark : String} (isMark : item.isMark mark = true) :
    item.isGrouped = false ∧ ∀ other, other ≠ mark → item.isMark other = false := by
  cases item with
  | group opening items closing => cases isMark
  | single token =>
    refine ⟨rfl, fun other differ ↦ ?_⟩
    have same : token.text = mark.toList := beq_iff_eq.mp (Bool.and_eq_true_iff.mp isMark).2
    show (token.kind == .mark && token.text == other.toList) = false
    rw [same, beq_eq_false_iff_ne.mpr fun equal ↦ differ (String.toList_injective equal).symm,
      Bool.and_false]

theorem split_dotted {dot member : Part} {name : String} (isDot : dot.item.isMark "." = true)
    (isMember : Suffix.memberName? member.item = some name) (parts : List Part) :
    Suffix.split (dot :: member :: parts) =
      (.member name :: (Suffix.split parts).1, (Suffix.split parts).2) := by
  obtain ⟨single, noOther⟩ := ungrouped_of_isMark isDot
  have noMark : Suffix.isOptionalMark dot.item = false := by
    rw [Suffix.isOptionalMark, noOther "?" (by decide), Bool.false_and]
  refine (Suffix.split.eq_def _).trans ?_
  simp only [noMark, single, isDot, isMember, Bool.false_eq_true, if_false]

theorem split_member (name : Identifier) (line : Nat) (parts : List Part) :
    Suffix.split (partsOf (Follower.member name line).items ++ parts) =
      (.member name.string :: (Suffix.split parts).1, (Suffix.split parts).2) :=
  split_dotted rfl rfl parts

/-- Followers are the suffixes of the name before them. -/
theorem split_followers (followers : List Follower) :
    Suffix.split (partsOf (followerItems followers)) = (followers.map Follower.suffix, []) := by
  induction followers with
  | nil => rfl
  | cons follower followers ih =>
    have shape : partsOf (followerItems (follower :: followers)) =
        partsOf follower.items ++ partsOf (followerItems followers) := by
      rw [← partsOf_append]
      rfl
    rw [shape]
    cases follower with
    | group opening items closing sameLine =>
      have isGrouped : (Item.group opening items closing).part.item.isGrouped = true := by
        rw [item_part]
        rfl
      show Suffix.split ((Item.group opening items closing).part ::
        partsOf (followerItems followers)) = _
      rw [split_grouped isGrouped, ih]
      rfl
    | member name line =>
      rw [split_member, ih]
      rfl

/-! ## Separation -/

/-- The progress of a statement that is a complete expression. -/
def complete : Progress :=
  ⟨.value, false⟩

/-- An item on the line of the one before it goes on with a complete expression. -/
theorem separate_sameLine {part : Part} (noSemicolon : part.item.isMark ";" = false)
    (sameLine : part.item.first.startsLine = false) {stage : Stage} (unlabeled : stage ≠ .labeled)
    (current parts : List Part) :
    separate .block Part.item ⟨stage, false⟩ current (part :: parts) =
      separate .block Part.item
        (Progress.after .block ⟨stage, false⟩ part.item (parts.head?.map Part.item))
        (current ++ [part]) parts := by
  have goesOn : endsBefore .block stage part.item (parts.head?.map Part.item) = false := by
    rw [endsBefore, Item.isSeparated, sameLine, beq_eq_false_iff_ne.mpr unlabeled]
    rfl
  rw [separate]
  simp only [noSemicolon, goesOn, Bool.false_eq_true, if_false]

theorem separate_follower (follower : Follower) (current parts : List Part) :
    separate .block Part.item complete current (partsOf follower.items ++ parts) =
      separate .block Part.item complete (current ++ partsOf follower.items) parts := by
  cases follower with
  | group opening items closing sameLine =>
    have isItem := item_part (.group opening items closing)
    have noSemicolon : (Item.group opening items closing).part.item.isMark ";" = false := by
      rw [isItem]
      rfl
    have onLine : (Item.group opening items closing).part.item.first.startsLine = false := by
      rw [isItem]
      exact sameLine
    show separate .block Part.item complete current
      ((Item.group opening items closing).part :: parts) = _
    rw [complete, separate_sameLine noSemicolon onLine (by decide), isItem]
    rfl
  | member name line =>
    show separate .block Part.item complete current
      ((Item.single (markToken [] ['.'] line)).part ::
        (Item.single (nameToken [] name line)).part :: parts) = _
    have toMember (next : Option Item) : Progress.after .block complete
        (Item.single (markToken [] ['.'] line)).part.item next = ⟨.member, false⟩ := rfl
    have toValue (next : Option Item) : Progress.after .block ⟨.member, false⟩
        (Item.single (nameToken [] name line)).part.item next = complete := rfl
    rw [complete, separate_sameLine rfl rfl (by decide), ← complete, toMember,
      separate_sameLine rfl rfl (by decide), toValue, List.append_assoc]
    rfl

/-- What follows a name on its line goes on with its statement. -/
theorem separate_followers (followers : List Follower) (current parts : List Part) :
    separate .block Part.item complete current (partsOf (followerItems followers) ++ parts) =
      separate .block Part.item complete (current ++ partsOf (followerItems followers)) parts := by
  induction followers generalizing current with
  | nil => rw [followerItems, List.flatMap_nil, partsOf, List.nil_append, List.append_nil]
  | cons follower followers ih =>
    rw [followerItems, List.flatMap_cons, partsOf_append, ← followerItems, List.append_assoc,
      separate_follower, ih, List.append_assoc]

/-! ## Statements -/

/-- A call that begins a line: a capitalized name, and what stands behind it on that line. -/
structure CallStatement where
  name : Identifier
  capitalized : isCapitalized name.chars = true
  line : Nat
  followers : List Follower

namespace CallStatement

/-- The name of a call as an item. -/
def nameItem (call : CallStatement) : Item :=
  .single (nameToken ['\n'] call.name call.line)

/-- The items of a call. -/
def items (call : CallStatement) : List Item :=
  call.nameItem :: followerItems call.followers

/-- A call as an expression. -/
def expression (call : CallStatement) : Expression :=
  let chain := Suffix.chain call.line (call.followers.map Follower.suffix)
  ⟨call.name.string, chain.1, chain.2⟩

/-- The items of successive calls. -/
def allItems (calls : List CallStatement) : List Item :=
  calls.flatMap items

theorem partsOf_items (call : CallStatement) :
    partsOf call.items = call.nameItem.part :: partsOf (followerItems call.followers) := by
  rw [items, partsOf]

theorem partsOf_allItems_cons (call : CallStatement) (calls : List CallStatement) :
    partsOf (allItems (call :: calls)) = partsOf call.items ++ partsOf (allItems calls) := by
  rw [allItems, List.flatMap_cons, partsOf_append, allItems]

/-! ### Cutting into statements -/

/-- Whether no colon makes a label of what stands before some parts. -/
def NoLabel (parts : List Part) : Prop :=
  (parts.head?.map Part.item).any (·.isMark ":") = false

theorem noLabel_allItems (calls : List CallStatement) : NoLabel (partsOf (allItems calls)) := by
  cases calls with
  | nil => rfl
  | cons call calls => rfl

theorem noLabel_followers (followers : List Follower) {parts : List Part}
    (noLabel : NoLabel parts) : NoLabel (partsOf (followerItems followers) ++ parts) := by
  cases followers with
  | nil => exact noLabel
  | cons follower followers =>
    cases follower with
    | group opening items closing sameLine =>
      show Option.any _ (some (Item.group opening items closing).part.item) = false
      rw [item_part]
      rfl
    | member name line => rfl

theorem after_nameItem (call : CallStatement) {next : Option Item}
    (noLabel : next.any (·.isMark ":") = false) :
    Progress.after .block {} call.nameItem next = complete := by
  have value : Stage.afterFirstWord .block call.nameItem next = .value :=
    afterFirstWord_capitalized call.capitalized noLabel
  have binds : call.nameItem.isWordOf ["let", "var"] = false :=
    isWordOf_capitalized call.capitalized (by decide)
  have stage : Stage.after .block false .start call.nameItem next = .value := value
  rw [Progress.after, stage, binds]
  rfl

/-- A call that begins a line begins a statement behind a complete one. -/
theorem separate_call (call : CallStatement) (current : List Part) {parts : List Part}
    (noLabel : NoLabel parts) :
    separate .block Part.item complete current (partsOf call.items ++ parts) =
      current :: separate .block Part.item complete (partsOf call.items) parts := by
  have isItem : call.nameItem.part.item = call.nameItem := item_part _
  have noColon := noLabel_followers call.followers noLabel
  have noWord : (nameToken ['\n'] call.name call.line).isWord "as" = false :=
    isWord_capitalized call.capitalized (by decide)
  have ends (next : Option Item) : endsBefore .block .value call.nameItem next = true := by
    have alone : Stage.isContinuedBy .value call.nameItem next = false := by
      show (Stage.value.isExpression && (nameToken ['\n'] call.name call.line).isWord "as") = _
      rw [noWord, Bool.and_false]
    rw [endsBefore, alone]
    rfl
  have noSemicolon : call.nameItem.isMark ";" = false := rfl
  rw [partsOf_items, List.cons_append, separate]
  simp only [isItem, noSemicolon, complete, ends, Bool.false_eq_true, if_false, if_true]
  rw [after_nameItem call noColon, separate_followers]
  rfl

theorem separate_allItems (calls : List CallStatement) (current : List Part) :
    separate .block Part.item complete current (partsOf (allItems calls)) =
      current :: calls.map fun call ↦ partsOf call.items := by
  induction calls generalizing current with
  | nil => rfl
  | cons call calls ih =>
    rw [partsOf_allItems_cons, separate_call call current (noLabel_allItems calls), ih,
      List.map_cons]

/-- Calls on lines of their own are statements of their own. -/
theorem statementsOf_allItems (calls : List CallStatement) :
    statementsOf .block Part.item (partsOf (allItems calls)) =
      calls.map fun call ↦ partsOf call.items := by
  have nonempty : ∀ statement ∈ calls.map fun call ↦ partsOf call.items,
      (!statement.isEmpty) = true := by
    intro statement member
    obtain ⟨call, -, rfl⟩ := List.mem_map.mp member
    rfl
  cases calls with
  | nil => rfl
  | cons call calls =>
    have isItem : call.nameItem.part.item = call.nameItem := item_part _
    have noColon := noLabel_followers call.followers (noLabel_allItems calls)
    have goesOn (next : Option Item) : endsBefore .block .start call.nameItem next = false := rfl
    have noSemicolon : call.nameItem.isMark ";" = false := rfl
    have first : separate .block Part.item {} [] (partsOf (allItems (call :: calls))) =
        (call :: calls).map fun call ↦ partsOf call.items := by
      rw [partsOf_allItems_cons, partsOf_items, List.cons_append, separate]
      simp only [isItem, noSemicolon, goesOn, Bool.false_eq_true, if_false]
      rw [after_nameItem call noColon, separate_followers, separate_allItems]
      rfl
    rw [statementsOf, first, List.filter_eq_self.mpr nonempty]

/-! ### Expressions -/

theorem leadingExpression?_items (call : CallStatement) :
    leadingExpression? (partsOf call.items) = some (call.expression, []) := by
  rw [partsOf_items, leadingExpression?, split_followers]
  rfl

theorem wholeExpression?_items (call : CallStatement) :
    wholeExpression? (partsOf call.items) = some call.expression := by
  rw [wholeExpression?, leadingExpression?_items]

theorem beforeJoined_items (call : CallStatement) :
    beforeJoined (partsOf call.items) = partsOf call.items := by
  rw [beforeJoined, leadingExpression?_items]
  rfl

theorem holdsJoined_items (call : CallStatement) : holdsJoined (partsOf call.items) = false := by
  rw [holdsJoined, beforeJoined_items]
  exact decide_eq_false (Nat.lt_irrefl _)

/-- A call is read as an expression. -/
theorem expression_statementOutline (call : CallStatement) :
    (statementOutline (partsOf call.items)).expression = some call.expression := by
  have noTransfer : call.nameItem.part.item.isWordOf transferWords = false :=
    isWordOf_capitalized call.capitalized (by decide)
  rw [statementOutline, beforeJoined_items]
  show statementExpression? (partsOf call.items) = _
  rw [← wholeExpression?_items, partsOf_items]
  cases partsOf (followerItems call.followers) with
  | nil => rfl
  | cons next parts =>
    rw [statementExpression?, noTransfer]
    rfl

/-! ### Closures -/

theorem signatureLength?_followers (followers : List Follower) :
    signatureLength? false (partsOf (followerItems followers)) = none := by
  induction followers with
  | nil => rfl
  | cons follower followers ih =>
    rw [followerItems, List.flatMap_cons, partsOf_append, ← followerItems]
    cases follower with
    | group opening items closing sameLine =>
      have isItem : (Item.group opening items closing).part.item = .group opening items closing :=
        item_part _
      show signatureLength? false
        ((Item.group opening items closing).part :: partsOf (followerItems followers)) = _
      rw [signatureLength?, isItem]
      show (if endsSignature (.group opening items closing) then none else
        (signatureLength? false (partsOf (followerItems followers))).map (· + 1)) = none
      rw [ih]
      exact ite_self none
    | member name line =>
      show (signatureLength? true ((Item.single (nameToken [] name line)).part ::
        partsOf (followerItems followers))).map (· + 1) = none
      rw [signatureLength?, ih]
      rfl

/-- Calls are no parameters of the closure around them. -/
theorem splitClosure_allItems (calls : List CallStatement) :
    splitClosure (partsOf (allItems calls)) = ([], partsOf (allItems calls)) := by
  have noSignature : signatureLength? false
      ((statementsOf .block Part.item (partsOf (allItems calls))).headD []) = none := by
    rw [statementsOf_allItems]
    cases calls with
    | nil => rfl
    | cons call calls =>
      have noIn : call.nameItem.part.item.isWord "in" = false :=
        isWord_capitalized call.capitalized (by decide)
      have noFor : endsSignature call.nameItem.part.item = false := by
        have noWord : call.nameItem.part.item.isWord "for" = false :=
          isWord_capitalized call.capitalized (by decide)
        rw [endsSignature, noWord]
        rfl
      show signatureLength? false (partsOf call.items) = none
      rw [partsOf_items, signatureLength?, noIn, noFor]
      show (signatureLength? false (partsOf (followerItems call.followers))).map (· + 1) = none
      rw [signatureLength?_followers]
      rfl
  rw [splitClosure, noSignature]

/-- The closure around calls. -/
theorem closureOutline_allItems (calls : List CallStatement) :
    closureOutline (partsOf (allItems calls)) =
      ⟨none, none, calls.map fun call ↦ statementOutline (partsOf call.items)⟩ := by
  have noParameter : parameterOf? (([] : List Part).map Part.item) = none := by
    rw [parameterOf?, List.map_nil, dropAttributes.eq_def]
    rfl
  rw [closureOutline, splitClosure_allItems]
  show (⟨none, parameterOf? (([] : List Part).map Part.item),
    (statementsOf .block Part.item (partsOf (allItems calls))).map statementOutline⟩ :
      Outline.Closure Expression) = _
  rw [noParameter, statementsOf_allItems, List.map_map]
  rfl

/-- Nothing is left out in a closure around calls. -/
theorem sound_closure {opening : Token} (isBrace : opening.isMark "\x7b" = true)
    {items : List Item} {calls : List CallStatement}
    (body : (splitClosure (partsOf items)).2 = partsOf (allItems calls)) (sound : Sound items)
    (closing : Option Token) : Sound [.group opening items closing] := by
  refine List.forall_mem_singleton.mpr ?_
  have alone : (calls.map fun call ↦ partsOf call.items).any holdsJoined = false := by
    rw [List.any_eq_false]
    intro statement member
    obtain ⟨call, -, rfl⟩ := List.mem_map.mp member
    rw [holdsJoined_items]
    exact Bool.false_ne_true
  rw [part_closure isBrace, body, statementsOf_allItems, alone, sound.any_malformed]
  rfl

/-! ### Parameters -/

/-- The word that ends the parameters of a closure. -/
def inName : Identifier :=
  ⟨['i', 'n'], by decide⟩

/-- The items of a parameter of a closure. -/
def parameterItems (row : Identifier) (line : Nat) : List Item :=
  [.single (nameToken [' '] row line), .single (nameToken [' '] inName line)]

theorem separate_eq_cons {α : Type} (surroundings : Surroundings) (item : α → Item)
    (progress : Progress) (current parts : List α) :
    ∃ more others, separate surroundings item progress current parts =
      (current ++ more) :: others := by
  induction parts generalizing progress current with
  | nil => exact ⟨[], [], by rw [separate, List.append_nil]⟩
  | cons part parts ih =>
    rw [separate]
    split
    · exact ⟨[], _, by rw [List.append_nil]⟩
    · split
      · exact ⟨[], _, by rw [List.append_nil]⟩
      · obtain ⟨more, others, same⟩ := ih
          (progress.after surroundings (item part) (parts.head?.map item)) (current ++ [part])
        exact ⟨part :: more, others, by rw [same, List.append_assoc, List.singleton_append]⟩

/-- A parameter and the word behind it begin what would be the first statement of a closure. -/
theorem headD_statementsOf_parameter (row : Identifier) (line : Nat) (parts : List Part) :
    ∃ more, (statementsOf .block Part.item
        (partsOf (parameterItems row line) ++ parts)).headD [] =
      partsOf (parameterItems row line) ++ more := by
  have noLabel : (Item.single (nameToken [' '] inName line)).isWordOf labeledWords = false := rfl
  have first (next : Option Item) : endsBefore .block .start
      (Item.single (nameToken [' '] row line)) next = false := rfl
  have second (stage : Stage) (next : Option Item) : endsBefore .block stage
      (Item.single (nameToken [' '] inName line)) next = false := by
    rw [endsBefore, noLabel, Bool.and_false]
    rfl
  have noSemicolon (name : Identifier) :
      (Item.single (nameToken [' '] name line)).isMark ";" = false := rfl
  show ∃ more, (statementsOf .block Part.item ((Item.single (nameToken [' '] row line)).part ::
    (Item.single (nameToken [' '] inName line)).part :: parts)).headD [] = _
  rw [statementsOf, separate]
  simp only [item_part, noSemicolon, first, Bool.false_eq_true, if_false]
  rw [separate]
  simp only [item_part, noSemicolon, second, Bool.false_eq_true, if_false]
  obtain ⟨more, others, same⟩ := separate_eq_cons .block Part.item
    (Progress.after .block _ (Item.single (nameToken [' '] inName line))
      (parts.head?.map Part.item)) _ parts
  rw [same]
  exact ⟨more, rfl⟩

theorem splitClosure_parameter (row : Identifier) (isParameter : row.string ∉ ["for", "in"])
    (line : Nat) (parts : List Part) :
    splitClosure (partsOf (parameterItems row line) ++ parts) =
      ([(Item.single (nameToken [' '] row line)).part], parts) := by
  have noWord {word : String} (isReserved : word ∈ ["for", "in"]) :
      (nameToken [' '] row line).isWord word = false := by
    rw [Bool.eq_false_iff, Ne, isWord_nameToken_iff]
    rintro rfl
    exact isParameter isReserved
  obtain ⟨more, first⟩ := headD_statementsOf_parameter row line parts
  have signature : signatureLength? false (partsOf (parameterItems row line) ++ more) = some 1 := by
    have noFor : endsSignature (.single (nameToken [' '] row line)) = false := by
      rw [endsSignature, Item.isWord, noWord (by decide)]
      rfl
    show signatureLength? false ((Item.single (nameToken [' '] row line)).part ::
      (Item.single (nameToken [' '] inName line)).part :: more) = _
    rw [signatureLength?, item_part, Item.isWord, noWord (by decide), noFor]
    rfl
  rw [splitClosure, first, signature]
  rfl

/-- The closure around calls behind a parameter. -/
theorem closureOutline_parameter (row : Identifier) (isParameter : row.string ∉ ["for", "in"])
    (line : Nat) (calls : List CallStatement) :
    closureOutline (partsOf (parameterItems row line ++ allItems calls)) =
      ⟨none, some row.string, calls.map fun call ↦ statementOutline (partsOf call.items)⟩ := by
  have parameter :
      parameterOf? ([(Item.single (nameToken [' '] row line)).part].map Part.item) =
        some row.string := by
    have alone : Item.textOf [.single (nameToken [' '] row line)] = row.chars := by
      show (' ' :: (row.chars ++ [])).drop 1 = row.chars
      rw [List.append_nil]
      rfl
    have kept : row.chars.dropWhile (fun c ↦ c == '(' || c == ' ') = row.chars := by
      have other (c : Char) (part : isIdentifierPart c = true) :
          (c == '(' || c == ' ') = false := by
        rw [beq_eq_false_iff_ne.mpr (ne_of_isIdentifierPart part (by decide)),
          beq_eq_false_iff_ne.mpr (ne_of_isIdentifierPart part (by decide))]
        rfl
      have same := dropWhile_identifier other row []
      rwa [List.append_nil] at same
    have split := row.splitIdentifier?_append (stops_nil _)
    have start := trimStart_identifier row []
    rw [List.append_nil] at split start
    rw [List.map_singleton, item_part, parameterOf?, dropAttributes.eq_def]
    show Call.leadingIdentifier? ((Item.textOf [.single (nameToken [' '] row line)]).dropWhile
      fun c ↦ c == '(' || c == ' ') = _
    rw [alone, kept, Call.leadingIdentifier?, start, split]
    rfl
  rw [partsOf_append, closureOutline, splitClosure_parameter row isParameter]
  simp only [parameter, statementsOf_allItems, List.map_map]
  rfl

end CallStatement

end ViewPreview
