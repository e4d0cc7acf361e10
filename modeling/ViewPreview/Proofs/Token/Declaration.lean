import ViewPreview.Proofs.Passage.Declaration
import ViewPreview.Proofs.Token.Call

/-!
# The Structure of a Declaration

The items of a declaration with nothing but a body.  Its braces are the first group of braces behind
the name, and those of the body are the first ones behind `body`; what stands between them is the
getter that is read, unless the name is a word that no type can have.
-/

namespace ViewPreview

open ViewPreview.Text ViewPreview.Outline ViewPreview.Passage

/-! ## Annotated names -/

/-- Names, each behind a space. -/
def spacedText (names : List Identifier) : List Char :=
  names.flatMap fun name ↦ ' ' :: name.chars

/-- The tokens of names, each behind a space. -/
def spacedItems (names : List Identifier) (line : Nat) : List Item :=
  names.map fun name ↦ .single (nameToken [' '] name line)

theorem noBreak_spacedText (names : List Identifier) : '\n' ∉ spacedText names := by
  intro member
  obtain ⟨name, -, inside⟩ := List.mem_flatMap.mp member
  exact name.not_mem_chars (by decide) (List.mem_of_ne_of_mem (by decide) inside)

theorem endsBefore_spacedText (names : List Identifier) : EndsBefore (spacedText names) := by
  cases names with
  | nil => exact endsBefore_nil
  | cons name names => exact endsBefore_delimiter (by decide) _

theorem groupedWith_spacedText (names : List Identifier) :
    GroupedWith (spacedText names) fun line items ↦ items = spacedItems names line := by
  induction names with
  | nil => exact groupedAs_nil.groupedWith fun _ ↦ rfl
  | cons name names ih =>
    have isSpace : [' '] ∈ plainGaps := by decide
    have oneLine : lineFeeds ([' '] ++ name.chars) = 0 := by
      rw [lineFeeds_append, lineFeeds_eq_zero (name.not_mem_chars (by decide))]
      rfl
    have first : GroupedWith ([' '] ++ name.chars) fun line items ↦
        items = [.single (nameToken [' '] name line)] :=
      (groupedAs_name isSpace name).groupedWith fun _ ↦ rfl
    apply first.append ih (endsBefore_spacedText names)
    rintro line _ _ rfl rfl
    rw [oneLine]
    rfl

/-- The items of names with a type annotation, and braces behind them. -/
def annotatedItems (names types : List Identifier) (line : Nat) (inner : List Item)
    (closing : Token) : List Item :=
  spacedItems names line ++ .single (markToken [] [':'] line) ::
    (spacedItems types line ++ [.group (markToken [' '] ['\x7b'] line) inner (some closing)])

theorem groupedWith_annotated (names types : List Identifier) {text last : List Char}
    {property : Nat → List Item → Prop} (isPlainLast : last ∈ plainGaps)
    (inside : GroupedWith text property) :
    GroupedWith (spacedText names ++ ([':'] ++ (spacedText types ++
        ([' '] ++ '\x7b' :: (text ++ (last ++ ['\x7d'])))))) fun line items ↦
      ∃ inner closing, property line inner ∧
        items = annotatedItems names types line inner closing := by
  have isSpace : [' '] ∈ plainGaps := by decide
  have braces : GroupedWith ([' '] ++ '\x7b' :: (text ++ (last ++ ['\x7d']))) fun line items ↦
      ∃ inner closing, property line inner ∧
        items = [.group (markToken [' '] ['\x7b'] line) inner (some closing)] := by
    apply GroupedWith.group (by decide) isSpace isPlainLast inside
    intro line inner final holds
    exact ⟨inner, _, holds, rfl⟩
  have typed : GroupedWith (spacedText types ++
      ([' '] ++ '\x7b' :: (text ++ (last ++ ['\x7d'])))) fun line items ↦
        ∃ inner closing, property line inner ∧ items = spacedItems types line ++
          [.group (markToken [' '] ['\x7b'] line) inner (some closing)] := by
    apply (groupedWith_spacedText types).append braces (endsBefore_delimiter (by decide) _)
    rintro line _ _ rfl ⟨inner, closing, holds, rfl⟩
    rw [lineFeeds_eq_zero (noBreak_spacedText types), Nat.add_zero] at holds ⊢
    exact ⟨inner, closing, holds, rfl⟩
  have marked : GroupedWith ([':'] ++ (spacedText types ++
      ([' '] ++ '\x7b' :: (text ++ (last ++ ['\x7d']))))) fun line items ↦
        ∃ inner closing, property line inner ∧ items = .single (markToken [] [':'] line) ::
          (spacedItems types line ++
            [.group (markToken [' '] ['\x7b'] line) inner (some closing)]) := by
    have colon : GroupedWith [':'] fun line items ↦ items = [.single (markToken [] [':'] line)] :=
      (groupedAs_mark (by decide)).groupedWith fun _ ↦ rfl
    have ends : EndsBefore (spacedText types ++
        ([' '] ++ '\x7b' :: (text ++ (last ++ ['\x7d'])))) := by
      intro rest _
      rw [List.append_assoc]
      exact endsBefore_spacedText types _ (endsToken_delimiter (by decide) _)
    apply colon.append typed ends
    rintro line _ _ rfl ⟨inner, closing, holds, rfl⟩
    exact ⟨inner, closing, holds, rfl⟩
  apply (groupedWith_spacedText names).append marked (endsBefore_delimiter (by decide) _)
  rintro line _ _ rfl ⟨inner, closing, holds, rfl⟩
  rw [lineFeeds_eq_zero (noBreak_spacedText names), Nat.add_zero] at holds ⊢
  exact ⟨inner, closing, holds, rfl⟩

/-! ## Declarations -/

/-- The word that introduces a structure. -/
def structWord : Identifier :=
  ⟨['s', 't', 'r', 'u', 'c', 't'], by decide⟩

/-- The name of the view protocol. -/
def viewName : Identifier :=
  ⟨['V', 'i', 'e', 'w'], by decide⟩

/-- The words before the type of a body. -/
def bodyWords : List Identifier :=
  [⟨['v', 'a', 'r'], by decide⟩, ⟨['b', 'o', 'd', 'y'], by decide⟩]

/-- The type of a body. -/
def bodyType : List Identifier :=
  [⟨['s', 'o', 'm', 'e'], by decide⟩, viewName]

/-- The members of a declaration with a body. -/
def memberItems (line : Nat) (inner : List Item) (closing : Token) : List Item :=
  annotatedItems bodyWords bodyType line inner closing

/-- The items of a declaration of a view. -/
def declarationItems (name : Identifier) (line : Nat) (members : List Item) (closing : Token) :
    List Item :=
  .single (nameToken [] structWord line) :: annotatedItems [name] [viewName] line members closing

theorem declarationText_eq (name : Identifier) (text : List Char) :
    declarationText name ('\n' :: (text ++ ['\n'])) =
      structWord.chars ++ (spacedText [name] ++ ([':'] ++ (spacedText [viewName] ++
        ([' '] ++ '\x7b' :: (spacedText bodyWords ++ ([':'] ++ (spacedText bodyType ++
          ([' '] ++ '\x7b' :: (('\n' :: text) ++ (['\n'] ++ ['\x7d']))))) ++
            ([' '] ++ ['\x7d'])))))) := by
  have members : membersText ('\n' :: (text ++ ['\n'])) =
      spacedText bodyWords ++ ([':'] ++ (spacedText bodyType ++
        ([' ', '\x7b'] ++ ('\n' :: (text ++ ['\n']) ++ ['\x7d', ' '])))) := rfl
  have whole : declarationText name ('\n' :: (text ++ ['\n'])) =
      structWord.chars ++ ([' '] ++ (name.chars ++ ([':'] ++ (spacedText [viewName] ++
        ([' ', '\x7b'] ++ (membersText ('\n' :: (text ++ ['\n'])) ++ ['\x7d'])))))) := rfl
  have named : spacedText [name] = [' '] ++ name.chars := by
    rw [spacedText, List.flatMap_singleton]
    rfl
  rw [whole, members, named]
  simp only [List.append_assoc, List.cons_append, List.nil_append]

section Names

variable {gap : List Char} {name : Identifier} {line : Nat} {words : List String}

theorem isWord_eq_false {word : String} (other : name.string ≠ word) :
    (Item.single (nameToken gap name line)).isWord word = false := by
  rw [Bool.eq_false_iff]
  exact fun same ↦ other (isWord_nameToken_iff.mp same)

theorem isWordOf_eq_false (noWord : name.string ∉ words) :
    (Item.single (nameToken gap name line)).isWordOf words = false := by
  rw [Item.isWordOf, List.any_eq_false]
  intro word member
  rw [isWord_eq_false fun same ↦ noWord (same ▸ member)]
  exact Bool.false_ne_true

end Names

/-- Words that cannot name the view of a declaration. -/
def unnamedWords : List String :=
  "where" :: reservedWords

/-- The items of a declaration between the word that introduces it and its braces. -/
def declarationHead (name : Identifier) (line : Nat) : List Item :=
  [.single (nameToken [' '] name line), .single (markToken [] [':'] line),
    .single (nameToken [' '] viewName line)]

section Found

variable {name : Identifier} (named : name.string ∉ unnamedWords) (line : Nat)
  (members : List Item)

include named

theorem typeDeclaration?_declarationItems (closing : Token) :
    typeDeclaration? (declarationItems name line members closing) =
      some ⟨declarationHead name line, members⟩ := by
  have allowed : (Item.single (nameToken [' '] name line)).isWordOf reservedWords = false :=
    isWordOf_eq_false (List.not_mem_of_not_mem_cons named)
  have introduces : (Item.single (nameToken [] structWord line)).isWordOf declarationWords =
      true := rfl
  show (if (Item.single (nameToken [] structWord line)).isWordOf declarationWords &&
      !(Item.single (nameToken [' '] name line)).isWordOf reservedWords then _ else _) = _
  rw [introduces, allowed]
  rfl

theorem sections_declarationHead :
    TypeDeclaration.sections ⟨declarationHead name line, members⟩ =
      [[.single (nameToken [' '] name line)], [.single (nameToken [' '] viewName line)]] := by
  have noWhere : (Item.single (nameToken [' '] name line)).isWord "where" = false :=
    isWord_eq_false (List.ne_of_not_mem_cons named)
  have unconstrained : TypeDeclaration.unconstrained ⟨declarationHead name line, members⟩ =
      declarationHead name line := by
    rw [TypeDeclaration.unconstrained, declarationHead, List.takeWhile_cons, noWhere]
    rfl
  rw [TypeDeclaration.sections, unconstrained]
  rfl

theorem isView_declarationHead :
    TypeDeclaration.isView ⟨declarationHead name line, members⟩ = true := by
  have noAttributes : dropAttributes [.single (nameToken [' '] viewName line)] =
      [.single (nameToken [' '] viewName line)] := by
    rw [dropAttributes.eq_def]
  have conformances : TypeDeclaration.conformances ⟨declarationHead name line, members⟩ =
      [viewName.chars] := by
    rw [TypeDeclaration.conformances, sections_declarationHead named]
    show [(Item.textOf (dropAttributes [.single (nameToken [' '] viewName line)])).filter
      fun c ↦ !isBlank c] = _
    rw [noAttributes]
    rfl
  rw [TypeDeclaration.isView, conformances]
  rfl

theorem name_declarationHead :
    TypeDeclaration.name ⟨declarationHead name line, members⟩ false = name.string := by
  have text : Item.textOf [.single (nameToken [' '] name line)] = name.chars := by
    show (' ' :: (name.chars ++ [])).drop 1 = name.chars
    rw [List.append_nil]
    rfl
  unfold TypeDeclaration.name
  rw [sections_declarationHead named]
  show String.ofList (Item.textOf [.single (nameToken [' '] name line)]) = _
  rw [text]
  rfl

/-- The declaration of a view is found. -/
theorem findView?_declarationItems (closing : Token) :
    findView? false (declarationItems name line members closing) = some ⟨name.string, members⟩ := by
  have found : viewDeclaration? (declarationItems name line members closing) =
      some ⟨name.string, members⟩ := by
    rw [viewDeclaration?, typeDeclaration?_declarationItems named, Option.bind_some,
      isView_declarationHead named, if_pos rfl, declarationItems, List.head?_cons]
    show some (ViewDeclaration.mk (TypeDeclaration.name ⟨declarationHead name line, members⟩ false)
      members) = _
    rw [name_declarationHead named]
  rw [declarationItems, findView?, ← declarationItems, found]
  rfl

end Found

/-! ## Bodies -/

section Members

variable (line : Nat) (inner : List Item) (closing : Token)

theorem statementsOf_memberItems :
    statementsOf .members id (memberItems line inner closing) =
      [memberItems line inner closing] := by
  rfl

/-- The items of the binding of a body. -/
def bindingItems : List Item :=
  .single (nameToken [' '] ⟨['b', 'o', 'd', 'y'], by decide⟩ line) ::
    .single (markToken [] [':'] line) :: (spacedItems bodyType line ++
      [.group (markToken [' '] ['\x7b'] line) inner (some closing)])

theorem bindings_memberItems :
    bindings (memberItems line inner closing) = [bindingItems line inner closing] := by
  have noAttributes : dropAttributes (memberItems line inner closing) =
      memberItems line inner closing := by
    rw [dropAttributes.eq_def]
    rfl
  rw [bindings, noAttributes]
  rfl

theorem computedItems?_bindingItems (observesNothing : observesChanges inner = false) :
    computedItems? (bindingItems line inner closing) = some inner := by
  show (some inner).filter (fun items ↦ !observesChanges items) = some inner
  rw [Option.filter_some, observesNothing]
  rfl

end Members

section Getter

variable (call : CallStatement)

theorem observesChanges_items : observesChanges call.items = false :=
  isWordOf_capitalized call.capitalized (by decide)

/-- A getter that is a call has no accessors. -/
theorem getterBody_items : getterBody call.items = call.items := by
  have noAttributes : dropAttributes call.items = call.items := by
    rw [dropAttributes.eq_def, CallStatement.items]
    cases followerItems call.followers with
    | nil => rfl
    | cons next rest => rfl
  have noModifier : isModifier call.nameItem = false :=
    isWordOf_capitalized call.capitalized (by decide)
  have noModifiers : dropModifiers call.items = call.items := by
    rw [CallStatement.items]
    cases followerItems call.followers with
    | nil => rw [dropModifiers, noModifier, if_neg Bool.false_ne_true]
    | cons next rest => rw [dropModifiers, noModifier, if_neg Bool.false_ne_true]
  have noAccessor : call.nameItem.isWordOf accessorWords = false :=
    isWordOf_capitalized call.capitalized (by decide)
  have noAccessors : holdsAccessors call.items = false := by
    rw [holdsAccessors, noAttributes, noModifiers]
    exact noAccessor
  rw [getterBody, noAccessors, if_neg Bool.false_ne_true]

/-- The parts of the getter of a declaration are those of its call. -/
theorem getterParts?_declarationItems {name : Identifier} (named : name.string ∉ unnamedWords)
    {source : List Char} {line inside : Nat} {closing last : Token}
    (items : itemsOf source =
      (declarationItems name line (memberItems inside call.items closing) last, false)) :
    getterParts? source = some (false, partsOf call.items) := by
  have property : ((statementsOf .members id (memberItems inside call.items closing)).map
      bindings).find? (fun binding ↦ binding.any bindsBody) =
        some [bindingItems inside call.items closing] := by
    rw [statementsOf_memberItems, List.map_singleton, bindings_memberItems]
    rfl
  have computed : [bindingItems inside call.items closing].findSome? computedItems? =
      some call.items := by
    rw [List.findSome?_cons,
      computedItems?_bindingItems inside call.items closing (observesChanges_items call)]
  rw [getterParts?, items]
  show (findView? false _).bind _ = _
  rw [findView?_declarationItems named, Option.bind_some]
  show Option.bind _ _ = _
  rw [property, Option.bind_some]
  show Option.bind _ _ = _
  rw [computed, Option.bind_some, getterBody_items]

/-- A declaration whose getter is a call is read from that call, with nothing wrong in it. -/
theorem readStructure_declarationItems {name : Identifier} (named : name.string ∉ unnamedWords)
    {source : List Char} {line inside : Nat} {closing last : Token} (sound : Sound call.items)
    (items : itemsOf source =
      (declarationItems name line (memberItems inside call.items closing) last, false)) :
    readStructure source = .ok (readStatement false (partsOf call.items)) := by
  have single : partsOf call.items = partsOf (CallStatement.allItems [call]) := by
    rw [CallStatement.allItems, List.flatMap_singleton]
  have cut : statementsOf .block Part.item (partsOf call.items) = [partsOf call.items] := by
    rw [single, CallStatement.statementsOf_allItems, List.map_singleton, ← single]
  have wellFormed : isMalformed false (partsOf call.items) = false := by
    rw [isMalformed, sound.any_malformed, cut, List.any_cons, call.holdsJoined_items]
    rfl
  rw [readStructure_eq (getterParts?_declarationItems call named items) cut, wellFormed]

end Getter

/-! ## Texts -/

/-- The items of a declaration around a text are those of the text, in the braces of a body. -/
theorem groupedWith_declarationText (name : Identifier) {text : List Char}
    {property : Nat → List Item → Prop} (grouped : GroupedWith ('\n' :: text) property) :
    GroupedWith (declarationText name ('\n' :: (text ++ ['\n']))) fun line items ↦
      ∃ inner closing last, property line inner ∧
        items = declarationItems name line (memberItems line inner closing) last := by
  have isBreak : ['\n'] ∈ plainGaps := by decide
  have isSpace : [' '] ∈ plainGaps := by decide
  have introduced : GroupedWith ([] ++ structWord.chars) fun line items ↦
      items = [.single (nameToken [] structWord line)] :=
    (groupedAs_name noGap structWord).groupedWith fun _ ↦ rfl
  have members := groupedWith_annotated bodyWords bodyType isBreak grouped
  have annotated := groupedWith_annotated [name] [viewName] isSpace members
  rw [declarationText_eq]
  apply introduced.append annotated (endsBefore_delimiter (by decide) _)
  rintro line _ _ rfl ⟨_, last, ⟨inner, closing, holds, rfl⟩, rfl⟩
  exact ⟨inner, closing, last, holds, rfl⟩

/-- A declaration around a call on lines of its own is read from that call. -/
theorem readStructure_declarationText {name : Identifier} (named : name.string ∉ unnamedWords)
    {text : List Char} {property : Nat → CallStatement → Prop}
    (grouped : GroupedWith ('\n' :: text) fun line items ↦
      ∃ call : CallStatement, items = call.items ∧ Sound items ∧ property line call) :
    ∃ call : CallStatement, property 1 call ∧
      readStructure (declarationText name ('\n' :: (text ++ ['\n']))) =
        .ok (readStatement false (partsOf call.items)) := by
  obtain ⟨_, items, _, closing, last, ⟨call, rfl, sound, holds⟩, rfl⟩ :=
    (groupedWith_declarationText name grouped).exists_itemsOf
  exact ⟨call, holds, readStructure_declarationItems call named sound items⟩

end ViewPreview
