import ViewPreview.Proofs.Passage.Declaration
import ViewPreview.Proofs.Passage.Insertion
import ViewPreview.Proofs.Text.Word

/-!
# The First View Among Declarations

Declarations are found one after the other: what stands between the braces of a declaration is
passed over, whether or not the declaration lists any names, and so is the text in front of it, as
long as neither of the words that begin a declaration stands there.  So the declaration that is read
is the first one with the name of the view protocol among the names it lists.
-/

namespace ViewPreview.Passage

open ViewPreview.Text ViewPreview.Call ViewPreview.Outline

/-! ## Words that begin a declaration -/

/-- The words that a declaration begins with. -/
def keywords : List (List Char) :=
  ["struct".toList, "class".toList]

/-- Whether one of the words that begin a declaration stands in a text, as a whole word. -/
def HasKeyword (text : List Char) : Prop :=
  ∃ front keyword rest, text = front ++ (keyword ++ rest) ∧ keyword ∈ keywords ∧
    endsInWord front = false ∧ Stops isWord rest

theorem not_hasKeyword {text : List Char}
    (absent : ∀ keyword ∈ keywords, occursIn keyword text = false) : ¬HasKeyword text := by
  rintro ⟨front, keyword, rest, rfl, isKeyword, -⟩
  have present : occursIn keyword (front ++ (keyword ++ rest)) = true :=
    occursIn_iff_isInfix.mpr ⟨front, rest, List.append_assoc _ _ _⟩
  rw [absent keyword isKeyword] at present
  cases present

section Keyword

variable {insideWord : Bool} {keyword gap segment text rest : List Char}

theorem isWord_of_mem_keyword (isKeyword : keyword ∈ keywords) {c : Char} (member : c ∈ keyword) :
    isWord c = true := by
  have words : (keywords.all fun keyword ↦ keyword.all isWord) = true := by decide
  exact List.all_eq_true.mp (List.all_eq_true.mp words keyword isKeyword) c member

theorem exists_of_afterWord? {word : String} (found : afterWord? word text = some rest) :
    ∃ c after, text = word.toList ++ c :: after ∧ isBlank c = true ∧ rest = trimStart after := by
  unfold afterWord? at found
  split at found
  · next c after start =>
    split at found
    · next blank =>
      cases found
      exact ⟨c, after, (append_of_dropStart? start).symm, blank, rfl⟩
    · cases found
  · cases found

/-- The text behind a word that begins a declaration, and the blanks after it. -/
def afterKeyword? (text : List Char) : Option (List Char) :=
  (afterWord? "struct" text).or (afterWord? "class" text)

theorem exists_of_afterKeyword? (found : afterKeyword? text = some rest) :
    ∃ keyword ∈ keywords, ∃ c after, text = keyword ++ c :: after ∧ isBlank c = true ∧
      rest = trimStart after := by
  rcases Option.or_eq_some_iff.mp found with word | ⟨-, word⟩
  · exact ⟨_, by decide, exists_of_afterWord? word⟩
  · exact ⟨_, by decide, exists_of_afterWord? word⟩

theorem afterKeyword?_eq (isKeyword : keyword ∈ keywords) (blank : ∀ c ∈ gap, isBlank c = true)
    (nonempty : gap ≠ []) (visible : Stops isBlank text) :
    afterKeyword? (keyword ++ (gap ++ text)) = some text := by
  obtain ⟨c, gap, rfl⟩ := List.exists_cons_of_ne_nil nonempty
  have read (word : String) : afterWord? word (word.toList ++ (c :: gap ++ text)) = some text := by
    rw [afterWord?, dropStart?_append]
    have trimmed : trimStart (gap ++ text) = text :=
      dropWhile_append_of_stops (fun d member ↦ blank d (List.mem_cons_of_mem c member)) visible
    simp only [List.cons_append, blank c List.mem_cons_self, if_true, trimmed]
  rcases List.mem_cons.mp isKeyword with rfl | isKeyword
  · rw [afterKeyword?, read "struct", Option.some_or]
  · rw [List.mem_singleton.mp isKeyword, afterKeyword?, read "class"]
    rfl

/-- A header begins with a keyword and a blank. -/
theorem exists_keyword_of_header? {header : Header} (found : header? text = some header) :
    ∃ named, afterKeyword? text = some named := by
  unfold header? at found
  obtain ⟨named, start, -⟩ := Option.bind_eq_some_iff.mp found
  exact ⟨named, start⟩

/-! ## Texts that are passed over -/

/-- At a character that begins no keyword there is no header. -/
theorem headerAt?_cons_eq_none {c : Char} (other : c ≠ 's' ∧ c ≠ 'c') :
    headerAt? insideWord (c :: text) = none := by
  unfold headerAt?
  split
  · rfl
  · rw [Option.eq_none_iff_forall_ne_some]
    intro header found
    obtain ⟨named, start⟩ := exists_keyword_of_header? found
    obtain ⟨keyword, isKeyword, b, after, same, -⟩ := exists_of_afterKeyword? start
    have begins : ∀ keyword ∈ keywords, keyword.head? = some 's' ∨ keyword.head? = some 'c' := by
      decide
    have first := congrArg List.head? same
    rw [List.head?_append] at first
    rcases begins keyword isKeyword with isFirst | isFirst
    · rw [isFirst] at first
      exact other.1 (Option.some.inj first)
    · rw [isFirst] at first
      exact other.2 (Option.some.inj first)

theorem findHeader?_cons {c : Char} (other : c ≠ 's' ∧ c ≠ 'c') :
    findHeader? 0 insideWord (c :: text) = findHeader? 0 (isWord c) text :=
  findHeader?_of_none (headerAt?_cons_eq_none other)

theorem findHeader?_blanks (blank : ∀ c ∈ gap, isBlank c = true) (nonempty : gap ≠ []) :
    findHeader? 0 insideWord (gap ++ text) = findHeader? 0 false text := by
  induction gap generalizing insideWord with
  | nil => exact absurd rfl nonempty
  | cons c gap ih =>
    obtain ⟨isFirst, others⟩ := List.forall_mem_cons.mp blank
    have other : c ≠ 's' ∧ c ≠ 'c' := by
      refine ⟨?_, ?_⟩
      all_goals
        rintro rfl
        exact absurd isFirst (by decide)
    rw [List.cons_append, findHeader?_cons other, not_isWord_of_isBlank isFirst]
    cases gap with
    | nil => rfl
    | cons d gap => exact ih others (List.cons_ne_nil d gap)

theorem findHeader?_gap {c : Char} (blank : ∀ c ∈ gap, isBlank c = true)
    (other : c ≠ 's' ∧ c ≠ 'c') :
    findHeader? 0 insideWord (gap ++ c :: text) = findHeader? 0 (isWord c) text := by
  by_cases empty : gap = []
  · rw [empty, List.nil_append, findHeader?_cons other]
  · rw [findHeader?_blanks blank empty, findHeader?_cons other]

/-- No header begins inside a word. -/
theorem findHeader?_insideWord (word : ∀ c ∈ segment, isWord c = true) :
    findHeader? 0 true (segment ++ text) = findHeader? 0 true text := by
  induction segment with
  | nil => rfl
  | cons c segment ih =>
    obtain ⟨isFirst, others⟩ := List.forall_mem_cons.mp word
    rw [List.cons_append, findHeader?_of_none rfl, isFirst]
    exact ih others

/-- The characters that belong to a declaration already looked at are passed over. -/
theorem findHeader?_skip (skipped : List Char) (c : Char) (rest : List Char) (insideWord : Bool) :
    findHeader? (skipped.length + 1) insideWord (skipped ++ c :: rest) =
      findHeader? 0 (isWord c) rest := by
  induction skipped generalizing insideWord with
  | nil => rw [List.nil_append, List.length_nil, findHeader?]
  | cons d skipped ih => rw [List.cons_append, List.length_cons, findHeader?, ih]

/-- A keyword that begins in a text without keywords goes on behind it. -/
theorem headerAt?_plain {done : List Char} (plain : ¬HasKeyword (done ++ segment))
    (nonempty : segment ≠ []) (apart : endsInWord (done ++ segment) = false ∨ Stops isWord rest) :
    headerAt? (endsInWord done) (segment ++ rest) = none := by
  unfold headerAt?
  split
  · rfl
  · next outside =>
    rw [Option.eq_none_iff_forall_ne_some]
    intro header found
    obtain ⟨named, start⟩ := exists_keyword_of_header? found
    obtain ⟨keyword, isKeyword, b, after, same, blank, -⟩ := exists_of_afterKeyword? start
    have stands {behind : List Char} (whole : segment = keyword ++ behind)
        (stops : Stops isWord behind) : False := by
      subst whole
      exact plain ⟨done, keyword, behind, rfl, isKeyword, Bool.eq_false_iff.mpr outside, stops⟩
    rcases List.append_eq_append_iff.mp same with ⟨more, whole, behind⟩ | ⟨more, whole, behind⟩
    · cases more with
      | nil =>
        rw [List.append_nil] at whole
        refine stands ?_ (stops_nil isWord)
        rw [whole, List.append_nil]
      | cons d more =>
        have word {e : Char} (member : e ∈ segment ++ d :: more) : isWord e = true :=
          isWord_of_mem_keyword isKeyword (whole ▸ member)
        rcases apart with ends | stops
        · rw [endsInWord, List.getLast?_append, List.getLast?_eq_some_getLast nonempty,
            Option.some_or, Option.any_some,
            word (List.mem_append_left _ (List.getLast_mem nonempty))] at ends
          cases ends
        · rw [behind, List.cons_append, stops_cons,
            word (List.mem_append_right _ List.mem_cons_self)] at stops
          cases stops
    · refine stands whole ?_
      cases more with
      | nil => exact stops_nil isWord
      | cons d more =>
        rw [stops_cons, ← (List.cons.inj behind).1]
        exact not_isWord_of_isBlank blank

/-- A text without a keyword is passed over, when no keyword can begin in it and end behind it. -/
theorem findHeader?_plain {done : List Char} (plain : ¬HasKeyword (done ++ segment))
    (apart : endsInWord (done ++ segment) = false ∨ Stops isWord rest) :
    findHeader? 0 (endsInWord done) (segment ++ rest) =
      findHeader? 0 (endsInWord (done ++ segment)) rest := by
  induction segment generalizing done with
  | nil => rw [List.append_nil, List.nil_append]
  | cons c segment ih =>
    have noHeader : headerAt? (endsInWord done) (c :: (segment ++ rest)) = none :=
      headerAt?_plain plain (List.cons_ne_nil c segment) apart
    rw [List.append_cons] at plain apart ⊢
    rw [List.cons_append, findHeader?_of_none noHeader, ← endsInWord_append_singleton done c]
    exact ih plain apart

end Keyword

/-! ## Declarations as they are written -/

/-- One of the names that a declaration lists, with the blanks around it. -/
structure ListedName where
  before : List Char
  name : List Char
  behind : List Char
  blank_before : ∀ c ∈ before, isBlank c = true
  blank_behind : ∀ c ∈ behind, isBlank c = true
  trimmed : Trimmed name
  name_ne_nil : name ≠ []
  plain : ',' ∉ name ∧ '{' ∉ name

namespace ListedName

variable (listed : ListedName)

/-- A listed name as it is written. -/
def text : List Char :=
  listed.before ++ (listed.name ++ listed.behind)

theorem trim_text : trim listed.text = listed.name :=
  listed.trimmed.trim_append listed.name_ne_nil listed.blank_before listed.blank_behind

theorem text_ne_nil : listed.text ≠ [] :=
  List.append_ne_nil_of_right_ne_nil _ (List.append_ne_nil_of_left_ne_nil listed.name_ne_nil _)

theorem not_mem_text {c : Char} (visible : isBlank c = false) (absent : c ∉ listed.name) :
    c ∉ listed.text := by
  have noBlank {gap : List Char} (blank : ∀ d ∈ gap, isBlank d = true) : c ∉ gap := by
    intro member
    rw [blank c member] at visible
    cases visible
  exact List.not_mem_append (noBlank listed.blank_before)
    (List.not_mem_append absent (noBlank listed.blank_behind))

end ListedName

/-- The declaration of a type as it is written: a keyword, a name, generic parameters if there are
any, the names that it lists, and what stands between its braces.  In front of it and between its
braces there are no keywords. -/
structure TypeDeclaration where
  front : List Char
  keyword : List Char
  gap : List Char
  name : Identifier
  gapBehindName : List Char
  parameters : Option (List Char)
  gapBehindParameters : List Char
  listed : List ListedName
  inner : List Char
  plain_front : ¬HasKeyword front
  front_ends : endsInWord front = false
  isKeyword : keyword ∈ keywords
  gap_ne_nil : gap ≠ []
  blank_gap : ∀ c ∈ gap, isBlank c = true
  blank_gapBehindName : ∀ c ∈ gapBehindName, isBlank c = true
  blank_gapBehindParameters : ∀ c ∈ gapBehindParameters, isBlank c = true
  plain_parameters : ∀ text ∈ parameters, '>' ∉ text ∧ '{' ∉ text ∧ ¬HasKeyword text
  plain_inner : ¬HasKeyword inner
  balanced : Balanced '{' '}' inner

namespace TypeDeclaration

variable (declaration : TypeDeclaration)

/-- The generic parameters between their brackets. -/
def parametersText : List Char :=
  match declaration.parameters with
  | some text => '<' :: (text ++ ['>'])
  | none => []

/-- The listed names, separated by commas. -/
def listedText : List Char :=
  [','].intercalate (declaration.listed.map ListedName.text)

/-- What stands between the parameters of a declaration and its opening brace: a colon and the
listed names, if there are any. -/
def listText : List Char :=
  if declaration.listed.isEmpty then [] else ':' :: declaration.listedText

/-- What stands between the keyword of a declaration, with the blanks behind it, and the opening
brace. -/
def namedText : List Char :=
  declaration.name.chars ++ (declaration.gapBehindName ++ (declaration.parametersText ++
    (declaration.gapBehindParameters ++ declaration.listText)))

/-- A declaration up to its opening brace. -/
def head : List Char :=
  declaration.keyword ++ (declaration.gap ++ declaration.namedText)

/-- A declaration and what stands in front of it. -/
def text : List Char :=
  declaration.front ++ (declaration.head ++ '{' :: (declaration.inner ++ ['}']))

/-- Whether a declaration lists exactly the name of the view protocol. -/
def IsView : Prop :=
  ∃ listed ∈ declaration.listed,
    listed.name = "View".toList ∨ listed.name = "SwiftUI.View".toList

instance : Decidable declaration.IsView :=
  inferInstanceAs (Decidable (∃ listed ∈ declaration.listed,
    listed.name = "View".toList ∨ listed.name = "SwiftUI.View".toList))

/-! ### The header of a declaration -/

variable {declaration} {list rest : List Char}

theorem blank_gaps (declaration : TypeDeclaration) :
    ∀ c ∈ declaration.gapBehindName ++ declaration.gapBehindParameters, isBlank c = true := by
  intro c member
  rcases List.mem_append.mp member with before | after
  · exact declaration.blank_gapBehindName c before
  · exact declaration.blank_gapBehindParameters c after

/-- The generic parameters and the blanks around them are passed over. -/
theorem afterGenerics_parametersText (begins : Stops isBlank list)
    (noParameters : ∀ more, list ≠ '<' :: more) :
    trimStart (afterGenerics (trimStart (declaration.gapBehindName ++
      (declaration.parametersText ++ (declaration.gapBehindParameters ++ list))))) = list := by
  have behind : trimStart (declaration.gapBehindParameters ++ list) = list :=
    dropWhile_append_of_stops declaration.blank_gapBehindParameters begins
  unfold parametersText
  cases found : declaration.parameters with
  | none =>
    have front : trimStart (declaration.gapBehindName ++
        (declaration.gapBehindParameters ++ list)) = list := by
      rw [← List.append_assoc]
      exact dropWhile_append_of_stops declaration.blank_gaps begins
    have unchanged : afterGenerics list = list := by
      unfold afterGenerics
      split
      · next more => exact absurd rfl (noParameters more)
      · rfl
    rw [List.nil_append, front, unchanged, trimStart_eq_self begins]
  | some parameters =>
    obtain ⟨noEnd, noBrace, -⟩ := declaration.plain_parameters parameters found
    have front : trimStart (declaration.gapBehindName ++ ('<' :: (parameters ++ ['>']) ++
        (declaration.gapBehindParameters ++ list))) =
          '<' :: (parameters ++ '>' :: (declaration.gapBehindParameters ++ list)) := by
      rw [List.cons_append, List.append_assoc]
      exact dropWhile_append_of_stops declaration.blank_gapBehindName (stops_cons.mpr (by decide))
    have inside : ∀ c ∈ parameters, (c != '>' && c != '{') = true := by
      intro c member
      rw [Bool.and_eq_true, bne_iff_ne, bne_iff_ne]
      exact ⟨fun same ↦ noEnd (same ▸ member), fun same ↦ noBrace (same ▸ member)⟩
    have dropped : (parameters ++ '>' :: (declaration.gapBehindParameters ++ list)).dropWhile
        (fun c ↦ c != '>' && c != '{') = '>' :: (declaration.gapBehindParameters ++ list) :=
      dropWhile_append_of_stops inside (stops_cons.mpr (by decide))
    rw [front, afterGenerics, dropped]
    exact behind

theorem stops_behindName (declaration : TypeDeclaration) (stops : Stops isWord list) :
    Stops isWord (declaration.gapBehindName ++ (declaration.parametersText ++
      (declaration.gapBehindParameters ++ list))) := by
  have noWord {gap : List Char} (blank : ∀ c ∈ gap, isBlank c = true) :
      ∀ c ∈ gap, isWord c = false := fun c member ↦ not_isWord_of_isBlank (blank c member)
  apply Text.stops_append (noWord declaration.blank_gapBehindName)
  unfold parametersText
  cases declaration.parameters with
  | some parameters => exact stops_cons.mpr (by decide)
  | none =>
    dsimp only
    rw [List.nil_append]
    exact Text.stops_append (noWord declaration.blank_gapBehindParameters) stops

theorem head_append (declaration : TypeDeclaration) (rest : List Char) :
    declaration.head ++ rest =
      declaration.keyword ++ (declaration.gap ++ (declaration.name.chars ++
        (declaration.gapBehindName ++ (declaration.parametersText ++
          (declaration.gapBehindParameters ++ (declaration.listText ++ rest)))))) := by
  simp only [head, namedText, List.append_assoc]

theorem not_mem_listedText (declaration : TypeDeclaration) : '{' ∉ declaration.listedText := by
  refine not_mem_intercalate (by decide) fun part member ↦ ?_
  obtain ⟨listed, -, rfl⟩ := List.mem_map.mp member
  exact listed.not_mem_text (by decide) listed.plain.2

theorem listedText_ne_nil (some_ : declaration.listed ≠ []) : declaration.listedText ≠ [] := by
  unfold listedText
  obtain ⟨first, others, same⟩ := List.exists_cons_of_ne_nil some_
  rw [same, List.map_cons]
  by_cases last : others.map ListedName.text = []
  · rw [last, List.intercalate_singleton]
    exact first.text_ne_nil
  · rw [List.intercalate_cons_of_ne_nil last, List.append_assoc]
    exact List.append_ne_nil_of_left_ne_nil first.text_ne_nil _

/-- What is read of a header behind its name and its parameters: the listed names and the brace. -/
def headerBehind? (name : String) : List Char → Option Header
  | ':' :: names =>
    match names.dropWhile (· != '{') with
    | '{' :: rest =>
      if (names.takeWhile (· != '{')).isEmpty then none
      else some ⟨name, names.takeWhile (· != '{'), rest⟩
    | _ => none
  | _ => none

/-- What a declaration begins with is read as far as its list. -/
theorem header?_head_append (declaration : TypeDeclaration) {list : List Char}
    (noBlank : Stops isBlank list) (noWord : Stops isWord list)
    (noParameters : ∀ more, list ≠ '<' :: more) :
    header? (declaration.keyword ++ (declaration.gap ++ (declaration.name.chars ++
      (declaration.gapBehindName ++ (declaration.parametersText ++
        (declaration.gapBehindParameters ++ list)))))) =
      headerBehind? declaration.name.string list := by
  have visible (more : List Char) : Stops isBlank (declaration.name.chars ++ more) := by
    obtain ⟨c, others, same, start, -⟩ := declaration.name.exists_chars
    rw [same, List.cons_append, stops_cons]
    exact not_isBlank_of_isIdentifierPart (isIdentifierPart_of_isIdentifierStart start)
  have named := afterKeyword?_eq declaration.isKeyword declaration.blank_gap
    declaration.gap_ne_nil (visible (declaration.gapBehindName ++ (declaration.parametersText ++
      (declaration.gapBehindParameters ++ list))))
  have stops := declaration.stops_behindName noWord
  have isNamed : declaration.name.chars.isEmpty = false := by
    rw [Bool.eq_false_iff]
    exact fun empty ↦ declaration.name.chars_ne_nil (List.isEmpty_iff.mp empty)
  rw [header?]
  change (afterKeyword? _).bind _ = _
  rw [named]
  simp only [Option.bind_some, declaration.name.takeWhile_isWord_append stops,
    declaration.name.dropWhile_isWord_append stops,
    afterGenerics_parametersText noBlank noParameters, isNamed, Bool.false_or]
  rfl

/-- What a declaration that lists names begins with is read as its header, with all the names. -/
theorem header?_head_of_listed (declaration : TypeDeclaration)
    (nonempty : declaration.listed ≠ []) (rest : List Char) :
    header? (declaration.head ++ '{' :: rest) =
      some ⟨declaration.name.string, declaration.listedText, rest⟩ := by
  have list : declaration.listText ++ '{' :: rest =
      ':' :: (declaration.listedText ++ '{' :: rest) := by
    rw [listText, if_neg fun empty ↦ nonempty (List.isEmpty_iff.mp empty)]
    rfl
  have inside : ∀ c ∈ declaration.listedText, (c != '{') = true := fun c member ↦
    bne_iff_ne.mpr fun same ↦ declaration.not_mem_listedText (same ▸ member)
  have stops : Stops (· != '{') ('{' :: rest) := stops_cons.mpr (by decide)
  have visible : declaration.listedText.isEmpty = false := by
    rw [Bool.eq_false_iff]
    exact fun empty ↦ listedText_ne_nil nonempty (List.isEmpty_iff.mp empty)
  rw [head_append, list, header?_head_append declaration (stops_cons.mpr (by decide))
    (stops_cons.mpr (by decide)) fun _ same ↦ absurd (List.cons.inj same).1 (by decide)]
  simp only [headerBehind?, takeWhile_append_of_stops inside stops,
    dropWhile_append_of_stops inside stops, visible, Bool.false_eq_true, if_false]

/-- Without a list there is no header. -/
theorem header?_head_of_not_listed (declaration : TypeDeclaration) (empty : declaration.listed = [])
    (rest : List Char) : header? (declaration.head ++ '{' :: rest) = none := by
  have list : declaration.listText ++ '{' :: rest = '{' :: rest := by
    rw [listText, empty]
    rfl
  rw [head_append, list, header?_head_append declaration (stops_cons.mpr (by decide))
    (stops_cons.mpr (by decide)) fun _ same ↦ absurd (List.cons.inj same).1 (by decide)]
  rfl

/-- A header conforms when exactly the name of the view protocol is among its names. -/
theorem conforms_iff (declaration : TypeDeclaration) (nonempty : declaration.listed ≠ [])
    (rest : List Char) :
    (Header.conforms ⟨declaration.name.string, declaration.listedText, rest⟩ = true) ↔
      declaration.IsView := by
  have parts : splitAll ',' declaration.listedText = declaration.listed.map ListedName.text := by
    refine splitAll_intercalate (fun empty ↦ nonempty (List.map_eq_nil_iff.mp empty)) ?_
    intro part member
    obtain ⟨listed, -, rfl⟩ := List.mem_map.mp member
    exact listed.not_mem_text (by decide) listed.plain.1
  have named (listed : ListedName) (name : String) :
      (String.ofList (trim listed.text) == name) = true ↔ listed.name = name.toList := by
    rw [beq_iff_eq, listed.trim_text]
    constructor
    · rintro rfl
      exact (String.toList_ofList).symm
    · intro same
      rw [same, String.ofList_toList]
  unfold Header.conforms IsView
  rw [parts, List.map_map, List.any_map, List.any_eq_true]
  refine exists_congr fun listed ↦ and_congr_right fun _ ↦ ?_
  exact (Bool.or_eq_true_iff).trans (or_congr (named listed "View") (named listed "SwiftUI.View"))

/-! ### One declaration after the other -/

/-- No header begins at a name, even if it is a keyword, unless another name follows it. -/
theorem header?_identifier (name : Identifier) {behind : List Char} (noWord : Stops isWord behind)
    (visible : Stops isWord (trimStart behind)) : header? (name.chars ++ behind) = none := by
  rw [Option.eq_none_iff_forall_ne_some]
  intro header found
  unfold header? at found
  obtain ⟨named, start, found⟩ := Option.bind_eq_some_iff.mp found
  obtain ⟨keyword, isKeyword, b, after, same, blank, rfl⟩ := exists_of_afterKeyword? start
  -- The name ends where the keyword does, at the blank.
  have stops : Stops isWord (b :: after) := stops_cons.mpr (not_isWord_of_isBlank blank)
  have ends : behind = b :: after := by
    have dropped := congrArg (List.dropWhile isWord) same
    rwa [name.dropWhile_isWord_append noWord,
      dropWhile_append_of_stops (fun _ ↦ isWord_of_mem_keyword isKeyword) stops] at dropped
  rw [ends, trimStart_cons_of_isBlank blank] at visible
  have nameless : (trimStart after).takeWhile isWord = [] := takeWhile_eq_nil_of_stops visible
  simp only [nameless, List.isEmpty_nil, Bool.true_or, if_true] at found
  split at found
  · simp only [Option.bind_eq_bind, Option.bind_some] at found
    split at found
    · cases found
    · cases found
  · cases found

/-- What follows the name of a declaration without a list. -/
def gapText (declaration : TypeDeclaration) (rest : List Char) : List Char :=
  declaration.gapBehindName ++ (declaration.parametersText ++
    (declaration.gapBehindParameters ++ '{' :: rest))

theorem stops_trimStart_gapText (declaration : TypeDeclaration) (rest : List Char) :
    Stops isWord (trimStart (declaration.gapText rest)) := by
  unfold gapText parametersText
  cases declaration.parameters with
  | none =>
    dsimp only
    rw [List.nil_append, ← List.append_assoc, trimStart_append_brace,
      trimStart_eq_nil_iff.mpr declaration.blank_gaps]
    exact stops_cons.mpr (by decide)
  | some parameters =>
    have front : trimStart (declaration.gapBehindName ++ ('<' :: (parameters ++ ['>']) ++
        (declaration.gapBehindParameters ++ '{' :: rest))) =
          '<' :: (parameters ++ ['>']) ++ (declaration.gapBehindParameters ++ '{' :: rest) :=
      dropWhile_append_of_stops declaration.blank_gapBehindName (stops_cons.mpr (by decide))
    rw [front]
    exact stops_cons.mpr (by decide)

theorem findHeader?_gapText (declaration : TypeDeclaration) (rest : List Char)
    (insideWord : Bool) :
    findHeader? 0 insideWord (declaration.gapText rest) = findHeader? 0 false rest := by
  unfold gapText parametersText
  cases found : declaration.parameters with
  | none =>
    dsimp only
    rw [List.nil_append, ← List.append_assoc]
    exact findHeader?_gap declaration.blank_gaps (by decide)
  | some parameters =>
    obtain ⟨-, -, plain⟩ := declaration.plain_parameters parameters found
    dsimp only
    have passed := @findHeader?_plain parameters
      ('>' :: (declaration.gapBehindParameters ++ '{' :: rest)) [] plain
      (.inr (stops_cons.mpr (by decide)))
    rw [List.cons_append, List.append_assoc, List.singleton_append,
      findHeader?_gap declaration.blank_gapBehindName (by decide)]
    refine passed.trans ((findHeader?_cons (by decide)).trans ?_)
    exact findHeader?_gap declaration.blank_gapBehindParameters (by decide)

/-- A declaration without a list is passed over up to its opening brace. -/
theorem findHeader?_head_of_not_listed (declaration : TypeDeclaration)
    (empty : declaration.listed = []) (rest : List Char) :
    findHeader? 0 false (declaration.head ++ '{' :: rest) = findHeader? 0 false rest := by
  -- Both the keyword and the name are words at which no header begins.
  have passed {word more : List Char} (nonempty : word ≠ []) (all : ∀ c ∈ word, isWord c = true)
      (noHeader : header? (word ++ more) = none) :
      findHeader? 0 false (word ++ more) = findHeader? 0 true more := by
    obtain ⟨c, others, rfl⟩ := List.exists_cons_of_ne_nil nonempty
    obtain ⟨first, behind⟩ := List.forall_mem_cons.mp all
    have nowhere : headerAt? false (c :: (others ++ more)) = none := noHeader
    rw [List.cons_append, findHeader?_of_none nowhere, first, findHeader?_insideWord behind]
  have noHeader := declaration.header?_head_of_not_listed empty rest
  have written : declaration.head ++ '{' :: rest = declaration.keyword ++ (declaration.gap ++
      (declaration.name.chars ++ declaration.gapText rest)) := by
    rw [head_append, listText, empty]
    rfl
  have keyword_ne_nil : declaration.keyword ≠ [] := by
    have nonempty : ∀ keyword ∈ keywords, keyword ≠ [] := by decide
    exact nonempty _ declaration.isKeyword
  have noName : header? (declaration.name.chars ++ declaration.gapText rest) = none :=
    header?_identifier _ (declaration.stops_behindName (stops_cons.mpr (by decide)))
      (declaration.stops_trimStart_gapText rest)
  rw [written] at noHeader ⊢
  rw [passed keyword_ne_nil (fun _ ↦ isWord_of_mem_keyword declaration.isKeyword) noHeader,
    findHeader?_blanks declaration.blank_gap declaration.gap_ne_nil,
    passed declaration.name.chars_ne_nil declaration.name.word.isWord_of_mem noName,
    findHeader?_gapText]

/-- A declaration that lists other names is passed over up to its opening brace. -/
theorem findHeader?_head_of_listed (declaration : TypeDeclaration)
    (nonempty : declaration.listed ≠ []) (noView : ¬declaration.IsView) (rest : List Char) :
    findHeader? 0 false (declaration.head ++ '{' :: rest) = findHeader? 0 false rest := by
  have isHeader : headerAt? false (declaration.head ++ '{' :: rest) =
      some ⟨declaration.name.string, declaration.listedText, rest⟩ :=
    declaration.header?_head_of_listed nonempty rest
  have other := (not_congr (declaration.conforms_iff nonempty rest)).mpr noView
  cases begins : declaration.head with
  | nil =>
    rw [begins] at isHeader
    cases isHeader
  | cons c others =>
    rw [begins, List.cons_append] at isHeader
    have length : (others ++ '{' :: rest).length - rest.length = others.length + 1 := by
      rw [List.length_append, List.length_cons]
      omega
    rw [List.cons_append, findHeader?_of_not_conforms isHeader other, length, findHeader?_skip]
    rfl

/-- The text in front of a declaration is passed over. -/
theorem findHeader?_front (declaration : TypeDeclaration) (rest : List Char) :
    findHeader? 0 false (declaration.front ++ rest) = findHeader? 0 false rest := by
  have passed := @findHeader?_plain declaration.front rest [] declaration.plain_front
    (.inl declaration.front_ends)
  rwa [List.nil_append, declaration.front_ends] at passed

/-- A declaration that is no view is passed over. -/
theorem findHeader?_text_of_not_isView (declaration : TypeDeclaration)
    (noView : ¬declaration.IsView) (rest : List Char) :
    findHeader? 0 false (declaration.text ++ rest) = findHeader? 0 false rest := by
  have inner : findHeader? 0 false (declaration.inner ++ '}' :: rest) =
      findHeader? 0 false rest := by
    have passed := @findHeader?_plain declaration.inner ('}' :: rest) [] declaration.plain_inner
      (.inr (stops_cons.mpr (by decide)))
    exact passed.trans (findHeader?_cons (by decide))
  have head (more : List Char) :
      findHeader? 0 false (declaration.head ++ '{' :: more) = findHeader? 0 false more := by
    by_cases empty : declaration.listed = []
    · exact declaration.findHeader?_head_of_not_listed empty more
    · exact declaration.findHeader?_head_of_listed empty noView more
  rw [text, List.append_assoc, findHeader?_front, List.append_assoc, List.cons_append, head,
    List.append_assoc, List.singleton_append, inner]

/-- The first declaration of a view is found. -/
theorem findHeader?_text_of_isView (declaration : TypeDeclaration) (isView : declaration.IsView)
    (rest : List Char) :
    findHeader? 0 false (declaration.text ++ rest) =
      some ⟨declaration.name.string, declaration.listedText, declaration.inner ++ '}' :: rest⟩ := by
  have nonempty : declaration.listed ≠ [] := by
    obtain ⟨listed, member, -⟩ := isView
    exact List.ne_nil_of_mem member
  rw [text, List.append_assoc, findHeader?_front, List.append_assoc, List.cons_append,
    List.append_assoc, List.singleton_append]
  exact findHeader?_of_conforms (declaration.header?_head_of_listed nonempty _)
    ((declaration.conforms_iff nonempty _).mpr isView)

/-- Declarations that are no views are passed over. -/
theorem findHeader?_texts {declarations : List TypeDeclaration}
    (noViews : ∀ declaration ∈ declarations, ¬declaration.IsView) (rest : List Char) :
    findHeader? 0 false (declarations.flatMap text ++ rest) = findHeader? 0 false rest := by
  induction declarations with
  | nil => rfl
  | cons declaration declarations ih =>
    obtain ⟨first, others⟩ := List.forall_mem_cons.mp noViews
    rw [List.flatMap_cons, List.append_assoc, declaration.findHeader?_text_of_not_isView first,
      ih others]

end TypeDeclaration

/-! ## The declaration that is read -/

/-- The body of a view, read from its declaration. -/
def Declaration.readBody (declaration : Declaration) : Except Failure (Body Caveat) := do
  let some marked := findBodyMarker? false declaration.inner.text
    | throw (.noBodyProperty declaration.name)
  let some body := bodyPassage? declaration.inner marked | throw (.emptyBody declaration.name)
  return readFrom declaration body

theorem readBody_eq_match (source : List Char) :
    readBody source = match declaration? ⟨some 1, source⟩ with
      | some declaration => declaration.readBody
      | none => .error .noViewDeclaration := by
  unfold readBody
  cases declaration? ⟨some 1, source⟩ with
  | none => rfl
  | some declaration => rfl

/-- What is read from a declaration may fail, but not for want of a declaration. -/
theorem Declaration.view_readBody_ne (declaration : Declaration) :
    declaration.readBody.bind Body.view ≠ .error .noViewDeclaration := by
  have noOther (body : Body Caveat) : body.view ≠ .error .noViewDeclaration := by
    unfold Body.view
    split
    · rintro ⟨⟩
    · rintro ⟨⟩
  unfold Declaration.readBody
  cases findBodyMarker? false declaration.inner.text with
  | none => rintro ⟨⟩
  | some marked =>
    dsimp only
    cases bodyPassage? declaration.inner marked with
    | none => rintro ⟨⟩
    | some body => exact noOther _

/-- The declaration that is found among others that are no views. -/
theorem declaration?_texts {before : List TypeDeclaration} {view : TypeDeclaration}
    (noViews : ∀ declaration ∈ before, ¬declaration.IsView) (isView : view.IsView)
    (after : List TypeDeclaration) (trailing : List Char) :
    declaration? ⟨some 1, (before ++ view :: after).flatMap TypeDeclaration.text ++ trailing⟩ =
      some ⟨view.name.string,
        ⟨some (1 + lineFeeds (before.flatMap TypeDeclaration.text ++
          (view.front ++ (view.head ++ ['{'])))), view.inner⟩, true⟩ := by
  let rest := after.flatMap TypeDeclaration.text ++ trailing
  have written : (before ++ view :: after).flatMap TypeDeclaration.text ++ trailing =
      before.flatMap TypeDeclaration.text ++ (view.text ++ rest) := by
    rw [List.flatMap_append, List.flatMap_cons, List.append_assoc, List.append_assoc]
  have found : findHeader? 0 false (before.flatMap TypeDeclaration.text ++ (view.text ++ rest)) =
      some ⟨view.name.string, view.listedText, view.inner ++ '}' :: rest⟩ := by
    rw [TypeDeclaration.findHeader?_texts noViews, view.findHeader?_text_of_isView isView]
  have opened : before.flatMap TypeDeclaration.text ++ (view.text ++ rest) =
      (before.flatMap TypeDeclaration.text ++ (view.front ++ view.head)) ++
        '{' :: (view.inner ++ '}' :: rest) := by
    simp only [TypeDeclaration.text, List.append_assoc, List.cons_append, List.nil_append]
  have closed := view.balanced.splitClosing?_eq (by decide) rest
  have moved : (⟨some 1, before.flatMap TypeDeclaration.text ++ (view.text ++ rest)⟩ :
      Passage).moveTo (view.inner ++ '}' :: rest) =
        ⟨some (1 + lineFeeds (before.flatMap TypeDeclaration.text ++
          (view.front ++ (view.head ++ ['{'])))), view.inner ++ '}' :: rest⟩ := by
    rw [opened, moveTo_append_cons, Option.map_some]
    simp only [List.append_assoc]
  rw [written, declaration?]
  simp only [found, Option.map_some, closed, moved]

/-- The declaration that is read is the first one that lists exactly the name of the view protocol,
by itself or behind that of its module.  Whatever else is declared in front of it and behind it, it
is found with its name, what stands between its braces, and the line of the opening brace, and the
body is read from there.  A source fails for want of a declaration exactly when none of its
declarations lists that name. -/
theorem firstView_read (declarations : List TypeDeclaration) {trailing : List Char}
    (plain : ¬HasKeyword trailing) :
    let source := declarations.flatMap TypeDeclaration.text ++ trailing
    (∀ before view after, declarations = before ++ view :: after →
      (∀ declaration ∈ before, ¬declaration.IsView) → view.IsView →
        let line := 1 + lineFeeds (before.flatMap TypeDeclaration.text ++
          (view.front ++ (view.head ++ ['{'])))
        let found : Declaration := ⟨view.name.string, ⟨some line, view.inner⟩, true⟩
        declaration? ⟨some 1, source⟩ = some found ∧ readBody source = found.readBody) ∧
      ((readBody source).bind Body.view = .error .noViewDeclaration ↔
        ∀ declaration ∈ declarations, ¬declaration.IsView) := by
  intro source
  have first : ∀ before view after, declarations = before ++ view :: after →
      (∀ declaration ∈ before, ¬declaration.IsView) → view.IsView →
        let line := 1 + lineFeeds (before.flatMap TypeDeclaration.text ++
          (view.front ++ (view.head ++ ['{'])))
        let found : Declaration := ⟨view.name.string, ⟨some line, view.inner⟩, true⟩
        declaration? ⟨some 1, source⟩ = some found ∧ readBody source = found.readBody := by
    intro before view after split noViews isView line found
    have isFound : declaration? ⟨some 1, source⟩ = some found := by
      have read := declaration?_texts noViews isView after trailing
      rwa [← split] at read
    refine ⟨isFound, ?_⟩
    rw [readBody_eq_match, isFound]
  refine ⟨first, fun fails ↦ ?_, fun noViews ↦ ?_⟩
  · cases search : declarations.find? fun declaration ↦ decide declaration.IsView with
    | none => simpa using search
    | some view =>
      obtain ⟨isView, before, after, split, noViews⟩ := List.find?_eq_some_iff_append.mp search
      have read := (first before view after split (by simpa using noViews)
        (of_decide_eq_true isView)).2
      rw [read] at fails
      exact absurd fails (Declaration.view_readBody_ne _)
  · have nowhere : findHeader? 0 false source = none := by
      have passed := @findHeader?_plain trailing [] [] plain (.inr (stops_nil isWord))
      rw [List.append_nil] at passed
      exact (TypeDeclaration.findHeader?_texts noViews trailing).trans
        (passed.trans (findHeader?.eq_1 _ _))
    rw [readBody_eq_match, declaration?, nowhere]
    rfl

/-- A name in a list with one space on either side. -/
def ListedName.spaced (name : List Char) (visible : (name.all fun c ↦ !isBlank c) = true)
    (nonempty : name ≠ []) (plain : ',' ∉ name ∧ '{' ∉ name) : ListedName where
  before := [' ']
  name := name
  behind := [' ']
  blank_before := List.forall_mem_singleton.mpr rfl
  blank_behind := List.forall_mem_singleton.mpr rfl
  trimmed := trimmed_of_forall fun c member ↦
    (Bool.not_eq_true' _).mp (List.all_eq_true.mp visible c member)
  name_ne_nil := nonempty
  plain := plain

/-- The declaration of a modifier of views. -/
def tinted : TypeDeclaration where
  front := []
  keyword := "struct".toList
  gap := [' ']
  name := ⟨"Tinted".toList, by decide⟩
  gapBehindName := []
  parameters := none
  gapBehindParameters := []
  listed := [.spaced "ViewModifier".toList (by decide) (by decide) (by decide)]
  inner := [' ']
  plain_front := not_hasKeyword (by decide)
  front_ends := rfl
  isKeyword := by decide
  gap_ne_nil := by decide
  blank_gap := List.forall_mem_singleton.mpr rfl
  blank_gapBehindName := List.forall_mem_nil _
  blank_gapBehindParameters := List.forall_mem_nil _
  plain_parameters := by rintro text ⟨⟩
  plain_inner := not_hasKeyword (by decide)
  balanced := balanced_of_all (by decide)

/-- The declaration of a generic view on the next line. -/
def shown : TypeDeclaration where
  front := ['\n']
  keyword := "class".toList
  gap := [' ']
  name := ⟨"Shown".toList, by decide⟩
  gapBehindName := []
  parameters := some "T: View".toList
  gapBehindParameters := [' ']
  listed := [.spaced "Equatable".toList (by decide) (by decide) (by decide),
    .spaced "SwiftUI.View".toList (by decide) (by decide) (by decide)]
  inner := membersText "Text(1)".toList
  plain_front := not_hasKeyword (by decide)
  front_ends := rfl
  isKeyword := by decide
  gap_ne_nil := by decide
  blank_gap := List.forall_mem_singleton.mpr rfl
  blank_gapBehindName := List.forall_mem_nil _
  blank_gapBehindParameters := List.forall_mem_singleton.mpr rfl
  plain_parameters := by
    rintro text ⟨⟩
    exact ⟨by decide, by decide, not_hasKeyword (by decide)⟩
  plain_inner := not_hasKeyword (by decide)
  balanced := balanced_membersText (balanced_of_all (by decide))

theorem firstView_read_shown :
    ¬HasKeyword ['\n'] ∧
      [tinted, shown].flatMap TypeDeclaration.text ++ ['\n'] =
        ("struct Tinted: ViewModifier \x7b \x7d\n" ++
          "class Shown<T: View> : Equatable , SwiftUI.View " ++
          "\x7b var body: some View \x7bText(1)\x7d \x7d\n").toList ∧
      declaration? ⟨some 1, [tinted, shown].flatMap TypeDeclaration.text ++ ['\n']⟩ =
        some ⟨"Shown", ⟨some 2, membersText "Text(1)".toList⟩, true⟩ ∧
      (readBody (tinted.text ++ ['\n'])).bind Body.view = .error .noViewDeclaration := by
  have plain : ¬HasKeyword ['\n'] := not_hasKeyword (by decide)
  have others : ∀ declaration ∈ [tinted], ¬declaration.IsView := by decide
  have found := (firstView_read [tinted, shown] plain).1 [tinted] shown [] rfl others (by decide)
  exact ⟨plain, rfl, found.1, (firstView_read [tinted] plain).2.mpr others⟩

end ViewPreview.Passage
