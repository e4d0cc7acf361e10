import ViewPreview.Proofs.Call.Attachment
import ViewPreview.Proofs.Call.Brackets
import ViewPreview.Proofs.Spelling.Gradient
import ViewPreview.Proofs.View.Rows

/-!
# The Elements of an Array Literal

An element of an array literal with quotes at both ends is read as a string literal, and any other
as the name of an enumeration case.  An element in which neither a literal nor an ASCII identifier
stands is left out, and nothing tells that it was there: an array literal has as many items as
elements exactly when each element is read.  No numeral is, so a repetition over numbers has no
rows.
-/

namespace ViewPreview.Spelling

open ViewPreview.Text ViewPreview.Call ViewPreview.Number

/-! ## Names in a text -/

section Names

variable {text : List Char}

/-- An identifier that has begun, or begins in a text, is one of the identifiers of the text. -/
theorem identifiersFrom_ne_nil {pending : List Char}
    (begins : pending ≠ [] ∨ ∃ c ∈ text, isIdentifierStart c = true) :
    identifiersFrom pending text ≠ [] := by
  fun_induction identifiersFrom pending text with
  | case1 =>
    rcases begins with begun | ⟨c, member, -⟩
    · exact absurd rfl begun
    · cases member
  | case2 pending begun => exact List.cons_ne_nil _ _
  | case3 c text start ih => exact ih (.inl (List.cons_ne_nil c []))
  | case4 c text notStart ih =>
    rcases begins with begun | ⟨d, member, start⟩
    · exact absurd rfl begun
    · rcases List.mem_cons.mp member with rfl | behind
      · exact absurd start notStart
      · exact ih (.inr ⟨d, behind, start⟩)
  | case5 pending c text begun part ih => exact ih (.inl (List.cons_ne_nil c pending))
  | case6 pending c text begun notPart ih => exact List.cons_ne_nil _ _

theorem identifiers_eq_nil_iff :
    identifiers text = [] ↔ ∀ c ∈ text, isIdentifierStart c = false := by
  constructor
  · intro none c member
    rw [Bool.eq_false_iff]
    intro start
    exact identifiersFrom_ne_nil (.inr ⟨c, member, start⟩) none
  · exact identifiers_eq_nil

theorem dotToken?_eq_none (nameless : ∀ c ∈ text, isIdentifierStart c = false) :
    dotToken? text = none := by
  unfold dotToken?
  split
  · next rest =>
    have noName : splitIdentifier? rest = none := by
      cases rest with
      | nil => rfl
      | cons c rest =>
        have other := nameless c (List.mem_cons_of_mem _ List.mem_cons_self)
        rw [splitIdentifier?, other, if_neg Bool.false_ne_true]
    rw [noName, Option.map_none]
  · rfl

theorem typeToken?_eq_none (nameless : ∀ c ∈ text, isIdentifierStart c = false) :
    typeToken? text = none := by
  unfold typeToken?
  split
  · next c rest =>
    split
    · apply dotToken?_eq_none
      intro d member
      exact nameless d ((List.dropWhile_sublist isIdentifierPart).subset member)
    · rfl
  · rfl

/-- What is trimmed off a text is blank, so nothing else is lost. -/
theorem mem_trim_iff {c : Char} (visible : isBlank c = false) : c ∈ trim text ↔ c ∈ text := by
  obtain ⟨before, after, whole, blankBefore, blankAfter⟩ := exists_blanks_trim text
  have outside {blanks : List Char} (blank : ∀ d ∈ blanks, isBlank d = true) : c ∉ blanks := by
    intro member
    rw [blank c member] at visible
    exact Bool.noConfusion visible
  constructor
  · intro member
    rw [whole]
    exact List.mem_append_right before (List.mem_append_left after member)
  · intro member
    rw [whole, List.mem_append, List.mem_append] at member
    exact (member.resolve_left (outside blankBefore)).resolve_right (outside blankAfter)

/-- A text names something exactly when an ASCII identifier begins in it. -/
theorem token?_eq_none_iff :
    token? text = none ↔ ∀ c ∈ text, isIdentifierStart c = false := by
  constructor
  · intro none c member
    rw [token?, Option.or_eq_none_iff, List.getLast?_eq_none_iff] at none
    rw [Bool.eq_false_iff]
    intro start
    have visible : isBlank c = false :=
      not_isBlank_of_isIdentifierPart (isIdentifierPart_of_isIdentifierStart start)
    have other := identifiers_eq_nil_iff.mp none.2 c ((mem_trim_iff visible).mpr member)
    rw [other] at start
    exact Bool.noConfusion start
  · intro none
    have inside : ∀ c ∈ trim text, isIdentifierStart c = false := by
      obtain ⟨before, after, whole, -, -⟩ := exists_blanks_trim text
      intro c member
      apply none
      rw [whole]
      exact List.mem_append_right before (List.mem_append_left after member)
    rw [token?, dotToken?_eq_none inside, typeToken?_eq_none inside, identifiers_eq_nil inside]
    rfl

theorem isQuoted_of_not_mem (absent : '"' ∉ text) : isQuoted text = false := by
  rw [Bool.eq_false_iff]
  intro quoted
  obtain ⟨inner, shape⟩ := isQuoted_iff.mp quoted
  have first : '"' ∈ trim text := by
    rw [shape]
    exact List.mem_cons_self
  exact absent ((mem_trim_iff (by decide)).mp first)

end Names

/-! ## Elements that are read -/

/-- Whether an element of an array literal is read.  With quotes at both ends it has to hold a
string literal, and otherwise an ASCII identifier has to begin in it. -/
def IsRead (element : List Char) : Prop :=
  if isQuoted element then ∃ front, LiteralBehind element front
  else ∃ c ∈ element, isIdentifierStart c = true

theorem isSome_item?_iff {element : List Char} :
    (item? element).isSome = true ↔ IsRead element := by
  unfold item? IsRead
  split
  · rw [stringLiteral?, Option.isSome_map]
    rcases firstQuoted?_spec element with ⟨nothing, none⟩ | ⟨front, content, back, isFirst, found⟩
    · rw [nothing]
      exact iff_of_false Bool.false_ne_true (not_exists.mpr none)
    · rw [found]
      exact iff_of_true rfl ⟨front, isFirst.literalBehind⟩
  · rw [← not_iff_not, Bool.not_eq_true, Option.isSome_eq_false_iff, Option.isNone_iff_eq_none,
      token?_eq_none_iff]
    simp only [not_exists, not_and, Bool.not_eq_true]

instance : DecidablePred IsRead :=
  fun _ ↦ decidable_of_iff _ isSome_item?_iff

/-! ## Elements as they are written -/

/-- An element of an array literal as it is written: a string literal, an enumeration case, perhaps
of a named type, an identifier, or a decimal numeral. -/
inductive Element where
  | string (content : List Char) (isContent : LiteralContent content)
  | named (type : Option TypeName) (name : Identifier)
  | identifier (name : Identifier)
  | numeral (value : Numeral)

namespace Element

/-- The text of an element. -/
def text : Element → List Char
  | string content _ => '"' :: (content ++ ['"'])
  | named type name => namedText type name
  | identifier name => name.chars
  | numeral value => value.text

/-- What an element is read as.  Numerals are not read. -/
def reading? : Element → Option String
  | string content _ => some (String.ofList (unescape content))
  | named _ name => some name.string
  | identifier name => some name.string
  | numeral _ => none

theorem item?_string {content : List Char} (isContent : LiteralContent content) :
    item? ('"' :: (content ++ ['"'])) = some (String.ofList (unescape content)) := by
  have trimmed : Trimmed ('"' :: (content ++ ['"'])) :=
    trimmed_enclosed content (by decide) (by decide)
  have quoted : isQuoted ('"' :: (content ++ ['"'])) = true :=
    isQuoted_iff.mpr ⟨content, trimmed.trim_eq⟩
  have isFirst : IsFirstLiteral ('"' :: (content ++ ['"'])) [] content [] :=
    isFirstLiteral_of_not_mem List.not_mem_nil isContent
  rw [item?, if_pos quoted, isFirst.stringLiteral?_eq]

theorem token?_identifier (name : Identifier) : token? name.chars = some name.string := by
  have visible : ∀ c ∈ name.chars, isBlank c = false := fun _ ↦ name.not_isBlank_of_mem
  have noDot : dotToken? name.chars = none := by
    unfold dotToken?
    split
    · next rest same =>
      have dot : '.' ∈ name.chars := same ▸ List.mem_cons_self
      exact absurd dot (name.not_mem_chars (by decide))
    · rfl
  have ends : name.chars.dropWhile isIdentifierPart = [] := by
    have dropped := dropWhile_append_of_stops (fun _ ↦ name.isIdentifierPart_of_mem)
      (stops_nil isIdentifierPart)
    rwa [List.append_nil] at dropped
  have noType : typeToken? name.chars = none := by
    unfold typeToken?
    split
    · split
      · rw [ends]
        rfl
      · rfl
    · rfl
  rw [token?, (trimmed_of_forall visible).trim_eq, noDot, noType, identifiers_identifier]
  rfl

theorem item?_numeral (value : Numeral) : item? value.text = none := by
  have absent : '"' ∉ value.text := fun member ↦
    ne_of_isTokenPart (isTokenPart_numeral value _ member) (by decide) rfl
  rw [item?, isQuoted_of_not_mem absent, if_neg Bool.false_ne_true, token?_eq_none_iff]
  exact identifiers_eq_nil_iff.mp (identifiers_numeral value)

theorem item?_text (element : Element) : item? element.text = element.reading? := by
  cases element with
  | string content isContent => exact item?_string isContent
  | named type name =>
    rw [text, item?, isQuoted_namedText, if_neg Bool.false_ne_true, token?_namedText]
    rfl
  | identifier name =>
    have absent : '"' ∉ name.chars := name.not_mem_chars (by decide)
    rw [text, item?, isQuoted_of_not_mem absent, if_neg Bool.false_ne_true, token?_identifier]
    rfl
  | numeral value => exact item?_numeral value

end Element

/-! ## Array literals -/

/-- The elements of an array literal, given the text between its brackets: what stands between its
commas, unless it is blank. -/
def elementsOf (inner : List Char) : List (List Char) :=
  ((splitTopLevel ',' inner).map trim).filter fun element ↦ !element.isEmpty

section Items

theorem elementItems_eq (inner : List Char) :
    elementItems inner = (elementsOf inner).filterMap item? :=
  rfl

/-- The items are what the elements that are read are read as, one for each and in order. -/
theorem forall₂_items (elements : List (List Char)) :
    List.Forall₂ (fun element item ↦ item? element = some item)
      (elements.filter fun element ↦ IsRead element) (elements.filterMap item?) := by
  induction elements with
  | nil => exact .nil
  | cons element elements ih =>
    cases read : item? element with
    | none =>
      have unread : ¬IsRead element := by
        rw [← isSome_item?_iff, read]
        exact Bool.false_ne_true
      rw [List.filterMap_cons_none read, List.filter_cons_of_neg (by simpa using unread)]
      exact ih
    | some item =>
      have isRead : IsRead element := by
        rw [← isSome_item?_iff, read]
        rfl
      rw [List.filterMap_cons_some read, List.filter_cons_of_pos (by simpa using isRead)]
      exact .cons read ih

theorem length_items_iff (elements : List (List Char)) :
    (elements.filterMap item?).length = elements.length ↔
      ∀ element ∈ elements, IsRead element := by
  rw [List.length_filterMap_eq_countP, List.countP_eq_length]
  simp only [isSome_item?_iff]

theorem filterMap_item?_text (elements : List Element) :
    (elements.map Element.text).filterMap item? = elements.filterMap Element.reading? := by
  rw [List.filterMap_map]
  exact congrArg (elements.filterMap ·) (funext Element.item?_text)

end Items

/-! ## Repetitions over array literals -/

section Repetition

variable {arguments : Arguments} {argument : Call.Argument} {inner : List Char}

/-- A text that begins with a square bracket is no range. -/
theorem range?_of_brackets {text rest : List Char} (bracket : trim text = '[' :: rest) :
    range? text = none := by
  have bare : ∀ limit, stripParentheses limit ('[' :: rest) = '[' :: rest := by
    intro limit
    cases limit with
    | zero => rfl
    | succ limit => rfl
  have noInteger : splitInteger? ('[' :: rest) = none := rfl
  rw [range?, bracket, bare, noInteger]
  rfl

theorem rowSource_of_brackets (first : arguments.firstUnlabeled? = some argument)
    (brackets : trim argument.text = '[' :: (inner ++ [']'])) :
    rowSource arguments =
      ("forEachItems", some (.list (elementItems inner))) := by
  rw [rowSource, first]
  simp only [range?_of_brackets brackets, listItems?_of_brackets brackets]

/-- A repetition runs over the items of the array literal that it is called with. -/
theorem property?_build_of_brackets (first : arguments.firstUnlabeled? = some argument)
    (brackets : trim argument.text = '[' :: (inner ++ [']'])) (closures : List Closure) :
    let view := build .forEach arguments closures
    view.property? "forEachItems" = some (.list (elementItems inner)) ∧
      view.property? "forEachRange" = none := by
  have source : argumentProperties .forEach arguments =
      [("forEachItems", some (.list (elementItems inner)))] :=
    congrArg ([·]) (rowSource_of_brackets first brackets)
  have kept : ∀ key, key = "forEachItems" ∨ key = "forEachRange" →
      (build .forEach arguments closures).property? key =
        (setProperties (View.ofKind .forEach) (argumentProperties .forEach arguments)).property?
          key := by
    intro key isSource
    refine property?_attachAll ?_ fun closure _ found ↦ ?_
    · rcases isSource with rfl | rfl
      · decide
      · decide
    · have known := mem_of_key? found
      rcases isSource with rfl | rfl
      · exact absurd known (by decide)
      · exact absurd known (by decide)
  refine ⟨(kept _ (.inl rfl)).trans ?_, (kept _ (.inr rfl)).trans ?_⟩
  · rw [source]
    rfl
  · rw [source]
    rfl

end Repetition

/-- What an array literal gives as a list and as the rows of a repetition.  There is one item for
each element that is read, in order, and so there are as many items as elements exactly when every
element is read.  String literals, enumeration cases and identifiers are read as what they stand
for; a decimal numeral is not read.  A repetition that is called with the array literal runs over
the items: it has one row for each of them, as long as the limit allows. -/
theorem listItems?_elements {text inner : List Char}
    (brackets : trim text = '[' :: (inner ++ [']'])) :
    ∃ items, listItems? text = some items ∧
      List.Forall₂ (fun element item ↦ item? element = some item)
        ((elementsOf inner).filter fun element ↦ IsRead element) items ∧
      (items.length = (elementsOf inner).length ↔ ∀ element ∈ elementsOf inner, IsRead element) ∧
      (∀ elements : List Element, elementsOf inner = elements.map Element.text →
        items = elements.filterMap Element.reading?) ∧
      ∀ (arguments : Arguments) (argument : Call.Argument) (closures : List Closure),
        arguments.firstUnlabeled? = some argument → argument.text = text →
          let repetition := build .forEach arguments closures
          repetition.list? "forEachItems" = some items ∧
            repetition.range? "forEachRange" = none ∧
            ∀ template maxRepeat, repetition.view? "rowTemplate" = some template →
              repetition.expandRows maxRepeat =
                  (items.take maxRepeat).map
                    (template.fillRow (repetition.string? "rowVariable")) ∧
                (repetition.expandRows maxRepeat).length = min maxRepeat items.length := by
  refine ⟨elementItems inner, listItems?_of_brackets brackets, forall₂_items _,
    length_items_iff _, ?written, ?repeated⟩
  case written =>
    intro elements same
    rw [elementItems_eq, same, filterMap_item?_text]
  case repeated =>
    intro arguments argument closures first same repetition
    rw [← same] at brackets
    obtain ⟨items, range⟩ := property?_build_of_brackets first brackets closures
    have listed : repetition.list? "forEachItems" = some (elementItems inner) := by
      rw [View.list?, items]
    have noRange : repetition.range? "forEachRange" = none := by
      rw [View.range?, range]
    refine ⟨listed, noRange, fun template maxRepeat hasTemplate ↦ ?_⟩
    have rows : repetition.expandRows maxRepeat =
        ((elementItems inner).take maxRepeat).map
          (template.fillRow (repetition.string? "rowVariable")) := by
      rw [View.expandRows, hasTemplate]
      simp only [View.rowValues, noRange, listed, Option.getD_some]
    refine ⟨rows, ?_⟩
    rw [rows, List.length_map, List.length_take]

/-- Elements of all kinds: a literal with a comma, an enumeration case, an identifier, and a
number. -/
def mixedElements : List Element :=
  [.string (escape "a, b".toList) (literalContent_escape _),
    .named none ⟨"teal".toList, by decide⟩, .identifier ⟨"depth".toList, by decide⟩,
    .numeral ⟨true, ['2'], ['7'], List.cons_ne_nil _ _, List.forall_mem_singleton.mpr rfl,
      List.forall_mem_singleton.mpr rfl⟩]

/-- An array literal of these elements. -/
def mixedLiteral : List Char :=
  " [\"a, b\", .teal,depth , -2.7]".toList

theorem listItems?_elements_mixedLiteral :
    listItems? mixedLiteral = some ["a, b", "teal", "depth"] ∧
      (build .forEach ⟨[⟨none, mixedLiteral, none⟩], []⟩
        [⟨.rowTemplate, none, some "i", [View.ofText "\\(i)"]⟩]).expandRows 2 =
          [View.ofText "a, b", View.ofText "teal"] := by
  have brackets : trim mixedLiteral = '[' :: ("\"a, b\", .teal,depth , -2.7".toList ++ [']']) := by
    decide
  obtain ⟨items, listed, -, -, written, repeated⟩ := listItems?_elements brackets
  obtain rfl := written mixedElements (by decide)
  have items_eq : mixedElements.filterMap Element.reading? = ["a, b", "teal", "depth"] := by decide
  obtain ⟨-, -, rows⟩ := repeated ⟨[⟨none, mixedLiteral, none⟩], []⟩ ⟨none, mixedLiteral, none⟩
    [⟨.rowTemplate, none, some "i", [View.ofText "\\(i)"]⟩] rfl rfl
  rw [items_eq] at listed rows
  refine ⟨listed, ?_⟩
  rw [(rows (View.ofText "\\(i)") 2 rfl).1]
  rfl

/-- An array literal may have more elements than items. -/
theorem numbers_left_out :
    ¬ ∀ (text inner : List Char) (elements : List Element), trim text = '[' :: (inner ++ [']']) →
      elementsOf inner = elements.map Element.text →
        ∃ items, listItems? text = some items ∧ items.length = elements.length := by
  intro whole
  have numbers : elementsOf "1, 2".toList =
      [Element.numeral ⟨false, ['1'], [], List.cons_ne_nil _ _, List.forall_mem_singleton.mpr rfl,
          List.forall_mem_nil _⟩,
        .numeral ⟨false, ['2'], [], List.cons_ne_nil _ _, List.forall_mem_singleton.mpr rfl,
          List.forall_mem_nil _⟩].map Element.text := by
    decide
  obtain ⟨items, listed, length⟩ := whole "[1, 2]".toList "1, 2".toList _ (by decide) numbers
  have nothing : listItems? "[1, 2]".toList = some [] := by decide
  rw [nothing] at listed
  cases listed
  cases length

end ViewPreview.Spelling
