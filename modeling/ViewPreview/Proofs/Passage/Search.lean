import ViewPreview.Passage.Declaration
import ViewPreview.Proofs.Call.Nesting
import ViewPreview.Proofs.Text.Occurrence
import ViewPreview.Proofs.Text.Span

/-!
# Searches That End at a Brace

The declaration of a view and the words that introduce its body are recognised by what stands before
an opening brace.  What follows that brace has no influence on where they are found, so a text
inserted behind the brace of a body is inserted into that body and leaves everything before it as it
was.
-/

namespace ViewPreview.Passage

open ViewPreview.Text ViewPreview.Call ViewPreview.Outline

/-! ## Words before a brace -/

section Words

variable (text rest : List Char)

theorem trimStart_append_brace : trimStart (text ++ '{' :: rest) = trimStart text ++ '{' :: rest :=
  dropWhile_append_cons (by decide) text rest

theorem afterWord?_append_brace {word : String} (absent : '{' ∉ word.toList) :
    afterWord? word (text ++ '{' :: rest) = (afterWord? word text).map (· ++ '{' :: rest) := by
  rw [afterWord?, dropStart?_append_cons absent, afterWord?]
  cases dropStart? word.toList text with
  | none => rfl
  | some after =>
    cases after with
    | nil => rfl
    | cons c after =>
      show (if isBlank c then some (trimStart (after ++ '{' :: rest)) else none) =
        (if isBlank c then some (trimStart after) else none).map _
      rw [trimStart_append_brace]
      split
      · rfl
      · rfl

theorem afterMark?_append_brace {mark : Char} (other : '{' ≠ mark) :
    afterMark? mark (text ++ '{' :: rest) = (afterMark? mark text).map (· ++ '{' :: rest) := by
  rw [afterMark?, trimStart_append_brace, afterMark?]
  cases trimStart text with
  | nil => exact if_neg other
  | cons c after =>
    show (if c = mark then some (trimStart (after ++ '{' :: rest)) else none) =
      (if c = mark then some (trimStart after) else none).map _
    rw [trimStart_append_brace]
    split
    · rfl
    · rfl

theorem dropWhile_generics_append_brace (parameters : List Char) :
    (parameters ++ '{' :: rest).dropWhile (fun c ↦ c != '>' && c != '{') =
      parameters.dropWhile (fun c ↦ c != '>' && c != '{') ++ '{' :: rest :=
  dropWhile_append_cons (by decide) parameters rest

theorem afterGenerics_append_brace :
    afterGenerics (text ++ '{' :: rest) = afterGenerics text ++ '{' :: rest := by
  fun_cases afterGenerics text with
  | case1 parameters after found =>
    rw [List.cons_append, afterGenerics, dropWhile_generics_append_brace, found]
    rfl
  | case2 parameters noEnd =>
    rw [List.cons_append, afterGenerics, dropWhile_generics_append_brace]
    split
    · next after ends =>
      cases found : parameters.dropWhile fun c ↦ c != '>' && c != '{' with
      | nil =>
        rw [found] at ends
        cases ends
      | cons c others =>
        rw [found] at ends
        obtain ⟨rfl, -⟩ := List.cons.inj ends
        exact absurd found (noEnd others)
    · rfl
  | case3 text noStart =>
    rw [afterGenerics]
    intro parameters written
    cases text with
    | nil => cases written
    | cons c text =>
      obtain ⟨rfl, -⟩ := List.cons.inj written
      exact noStart text rfl

theorem startsWithView_append_brace : startsWithView (text ++ '{' :: rest) = startsWithView text := by
  rw [startsWithView, dropStart?_append_cons (by decide), startsWithView]
  cases dropStart? "View".toList text with
  | none => rfl
  | some after =>
    cases after with
    | nil => rfl
    | cons c after => rfl

theorem drop_of_startsWithView {text : List Char} (named : startsWithView text = true)
    (rest : List Char) : (text ++ rest).drop 4 = text.drop 4 ++ rest := by
  apply List.drop_append_of_le_length
  unfold startsWithView at named
  cases found : dropStart? "View".toList text with
  | none =>
    rw [found] at named
    cases named
  | some after =>
    rw [← append_of_dropStart? found, List.length_append]
    exact Nat.le_add_right _ _

/-- Steps that each leave a brace and what follows it alone do so together. -/
theorem bind_append_brace {step : List Char → Option (List Char)}
    (leaves : ∀ text, step (text ++ '{' :: rest) = (step text).map (· ++ '{' :: rest))
    (found : Option (List Char)) :
    (found.map (· ++ '{' :: rest)).bind step = (found.bind step).map (· ++ '{' :: rest) := by
  cases found with
  | none => rfl
  | some text => exact leaves text

theorem bodyMarker?_append_brace :
    bodyMarker? (text ++ '{' :: rest) = (bodyMarker? text).map (· ++ '{' :: rest) := by
  unfold bodyMarker?
  rw [afterWord?_append_brace _ _ (by decide)]
  apply bind_append_brace
  intro property
  rw [dropStart?_append_cons (by decide)]
  apply bind_append_brace
  intro named
  rw [afterMark?_append_brace _ _ (by decide)]
  apply bind_append_brace
  intro typed
  rw [afterWord?_append_brace _ _ (by decide)]
  apply bind_append_brace
  intro constrained
  have qualified : (dropStart? "SwiftUI.".toList (constrained ++ '{' :: rest)).getD
      (constrained ++ '{' :: rest) =
        (dropStart? "SwiftUI.".toList constrained).getD constrained ++ '{' :: rest := by
    rw [dropStart?_append_cons (by decide)]
    cases dropStart? "SwiftUI.".toList constrained with
    | none => rfl
    | some unqualified => rfl
  simp only [qualified, startsWithView_append_brace]
  split
  · next isView =>
    rw [drop_of_startsWithView isView]
    rfl
  · rfl

/-- The header with more text after its brace. -/
def Header.extend (header : Header) (more : List Char) : Header :=
  { header with rest := header.rest ++ more }

/-- A header ends at the first brace, so what follows a brace is only left over. -/
theorem header?_append_brace :
    header? (text ++ '{' :: rest) = (header? (text ++ ['{'])).map (·.extend rest) := by
  have named (more : List Char) :
      (afterWord? "struct" (text ++ '{' :: more)).or (afterWord? "class" (text ++ '{' :: more)) =
        ((afterWord? "struct" text).or (afterWord? "class" text)).map (· ++ '{' :: more) := by
    rw [afterWord?_append_brace _ _ (by decide), afterWord?_append_brace _ _ (by decide),
      Option.map_or]
  unfold header?
  rw [named rest, named []]
  cases (afterWord? "struct" text).or (afterWord? "class" text) with
  | none => rfl
  | some start =>
    have word (more : List Char) :
        (start ++ '{' :: more).takeWhile isWord = start.takeWhile isWord :=
      takeWhile_append_cons (by decide) start more
    have list (more : List Char) :
        trimStart (afterGenerics (trimStart ((start ++ '{' :: more).dropWhile isWord))) =
          trimStart (afterGenerics (trimStart (start.dropWhile isWord))) ++ '{' :: more := by
      rw [dropWhile_append_cons (by decide), trimStart_append_brace, afterGenerics_append_brace,
        trimStart_append_brace]
    simp only [Option.map_some, Option.bind_eq_bind, Option.bind_some, word, list]
    cases trimStart (afterGenerics (trimStart (start.dropWhile isWord))) with
    | nil => rfl
    | cons c after =>
      have before (more : List Char) :
          (after ++ '{' :: more).takeWhile (· != '{') = after.takeWhile (· != '{') :=
        takeWhile_append_cons (by decide) after more
      have behind (more : List Char) :
          (after ++ '{' :: more).dropWhile (· != '{') =
            after.dropWhile (· != '{') ++ '{' :: more :=
        dropWhile_append_cons (by decide) after more
      by_cases colon : c = ':'
      · subst colon
        simp only [List.cons_append, before, behind]
        cases opens : after.dropWhile (· != '{') with
        | nil =>
          simp only [List.nil_append]
          split
          · rfl
          · rfl
        | cons d others =>
          have stops := stops_dropWhile (· != '{') after
          rw [opens, stops_cons, bne_eq_false_iff_eq] at stops
          subst stops
          simp only [List.cons_append]
          split
          · rfl
          · simp only [Option.map_some, Header.extend, List.append_assoc, List.singleton_append]
      · have noList (more : List Char) : ∀ others, c :: after ++ '{' :: more ≠ ':' :: others := by
          intro others same
          exact colon (List.cons.inj same).1
        split
        · next others same => exact absurd same (noList rest others)
        · split
          · next others same => exact absurd same (noList [] others)
          · rfl

end Words

/-! ## What is left of a text -/

section Suffix

variable {text rest : List Char}

theorem suffix_of_dropStart? {start : List Char} (found : dropStart? start text = some rest) :
    rest <:+ text :=
  ⟨start, append_of_dropStart? found⟩

theorem trimStart_suffix (text : List Char) : trimStart text <:+ text :=
  List.dropWhile_suffix isBlank

theorem suffix_of_afterWord? {word : String} (found : afterWord? word text = some rest) :
    rest <:+ text := by
  unfold afterWord? at found
  split at found
  · next c after start =>
    split at found
    · cases found
      exact ((trimStart_suffix after).trans (List.suffix_cons c after)).trans
        (suffix_of_dropStart? start)
    · cases found
  · cases found

theorem suffix_of_afterMark? {mark : Char} (found : afterMark? mark text = some rest) :
    rest <:+ text := by
  unfold afterMark? at found
  split at found
  · next c after start =>
    split at found
    · cases found
      have shown := trimStart_suffix text
      rw [start] at shown
      exact ((trimStart_suffix after).trans (List.suffix_cons c after)).trans shown
    · cases found
  · cases found

theorem afterGenerics_suffix (text : List Char) : afterGenerics text <:+ text := by
  fun_cases afterGenerics text with
  | case1 parameters after found =>
    have dropped := List.dropWhile_suffix (fun c ↦ c != '>' && c != '{') (l := parameters)
    rw [found] at dropped
    exact ((List.suffix_cons '>' after).trans dropped).trans (List.suffix_cons '<' parameters)
  | case2 parameters noEnd => exact List.suffix_rfl
  | case3 text noStart => exact List.suffix_rfl

theorem suffix_of_header? {header : Header} (found : header? text = some header) :
    '{' :: header.rest <:+ text := by
  simp only [header?, Option.bind_eq_bind, Option.bind_eq_some_iff] at found
  obtain ⟨named, start, found⟩ := found
  have front : named <:+ text := by
    rcases Option.or_eq_some_iff.mp start with word | ⟨-, word⟩
    · exact suffix_of_afterWord? word
    · exact suffix_of_afterWord? word
  split at found
  · next list colon =>
    have afterName : trimStart (named.dropWhile isWord) <:+ named :=
      (trimStart_suffix _).trans (List.dropWhile_suffix isWord)
    have afterParameters : ':' :: list <:+ named := by
      rw [← colon]
      exact ((trimStart_suffix _).trans (afterGenerics_suffix _)).trans afterName
    simp only [Option.bind_some] at found
    split at found
    · next rest opens =>
      split at found
      · cases found
      · cases found
        have dropped := List.dropWhile_suffix (· != '{') (l := list)
        rw [opens] at dropped
        exact ((dropped.trans (List.suffix_cons ':' list)).trans afterParameters).trans front
    · cases found
  · cases found

theorem suffix_of_bodyMarker? (found : bodyMarker? text = some rest) : rest <:+ text := by
  simp only [bodyMarker?, Option.bind_eq_bind, Option.bind_eq_some_iff] at found
  obtain ⟨property, isProperty, named, isNamed, typed, isTyped, constrained, isSome, found⟩ := found
  have qualified : (dropStart? "SwiftUI.".toList constrained).getD constrained <:+ constrained := by
    cases unqualified : dropStart? "SwiftUI.".toList constrained with
    | none => exact List.suffix_rfl
    | some after => exact suffix_of_dropStart? unqualified
  split at found
  · cases found
    have typedName := (List.drop_suffix 4 _).trans (qualified.trans (suffix_of_afterWord? isSome))
    have body := (suffix_of_afterMark? isTyped).trans (suffix_of_dropStart? isNamed)
    exact (typedName.trans body).trans (suffix_of_afterWord? isProperty)
  · cases found

end Suffix

/-! ## Declarations -/

/-- The header at a place, which is none inside a word. -/
def headerAt? (insideWord : Bool) (text : List Char) : Option Header :=
  if insideWord then none else header? text

section Header

variable {skip : Nat} {insideWord : Bool} {text : List Char} {header : Header}

theorem headerAt?_append_brace (text rest : List Char) :
    headerAt? insideWord (text ++ '{' :: rest) =
      (headerAt? insideWord (text ++ ['{'])).map (·.extend rest) := by
  unfold headerAt?
  split
  · rfl
  · exact header?_append_brace text rest

/-- Whether there is a header does not depend on what follows a brace behind it. -/
theorem headerAt?_eq_none {rest : List Char}
    (noHeader : headerAt? insideWord (text ++ '{' :: rest) = none) (other : List Char) :
    headerAt? insideWord (text ++ '{' :: other) = none := by
  rw [headerAt?_append_brace, Option.map_eq_none_iff] at noHeader
  rw [headerAt?_append_brace, noHeader]
  rfl

/-- A header is recognised by what stands before its brace. -/
theorem headerAt?_eq_some (found : headerAt? insideWord text = some header) :
    ∃ before, text = before ++ '{' :: header.rest ∧
      ∀ rest, headerAt? insideWord (before ++ '{' :: rest) = some { header with rest } := by
  have isHeader : header? text = some header := by
    unfold headerAt? at found
    split at found
    · cases found
    · exact found
  obtain ⟨before, rfl⟩ := suffix_of_header? isHeader
  rw [headerAt?_append_brace, Option.map_eq_some_iff] at found
  obtain ⟨short, isShort, same⟩ := found
  have nothing : short.rest = [] := by
    have rests : short.rest ++ header.rest = header.rest := congrArg Header.rest same
    exact List.append_left_eq_self.mp rests
  refine ⟨before, rfl, fun rest ↦ ?_⟩
  rw [headerAt?_append_brace, isShort, ← same, Option.map_some, Header.extend, nothing]
  rfl

theorem findHeader?_of_none {c : Char} (noHeader : headerAt? insideWord (c :: text) = none) :
    findHeader? 0 insideWord (c :: text) = findHeader? 0 (isWord c) text := by
  unfold headerAt? at noHeader
  rw [findHeader?, noHeader]

theorem findHeader?_of_conforms (isHeader : headerAt? insideWord text = some header)
    (conforms : header.conforms = true) : findHeader? 0 insideWord text = some header := by
  cases text with
  | nil =>
    unfold headerAt? at isHeader
    split at isHeader
    · cases isHeader
    · cases isHeader
  | cons c text =>
    unfold headerAt? at isHeader
    rw [findHeader?, isHeader]
    exact if_pos conforms

theorem findHeader?_of_not_conforms {c : Char}
    (isHeader : headerAt? insideWord (c :: text) = some header)
    (conforms : ¬header.conforms = true) :
    findHeader? 0 insideWord (c :: text) =
      findHeader? (text.length - header.rest.length) (isWord c) text := by
  unfold headerAt? at isHeader
  rw [findHeader?, isHeader]
  exact if_neg conforms

/-- The declaration that is found is found by what stands before its brace. -/
theorem findHeader?_eq_some (found : findHeader? skip insideWord text = some header) :
    ∃ before, text = before ++ '{' :: header.rest ∧
      ∀ rest, findHeader? skip insideWord (before ++ '{' :: rest) = some { header with rest } := by
  fun_induction findHeader? skip insideWord text with
  | case1 => cases found
  | case2 insideWord skip c text ih =>
    obtain ⟨before, rfl, stable⟩ := ih found
    exact ⟨c :: before, rfl, stable⟩
  | case3 insideWord c text noHeader ih =>
    obtain ⟨before, rfl, stable⟩ := ih found
    refine ⟨c :: before, rfl, fun rest ↦ ?_⟩
    change headerAt? insideWord (c :: before ++ '{' :: header.rest) = none at noHeader
    have noOther : headerAt? insideWord (c :: (before ++ '{' :: rest)) = none :=
      headerAt?_eq_none noHeader rest
    rw [List.cons_append, findHeader?_of_none noOther]
    exact stable rest
  | case4 insideWord c text other isHeader conforms =>
    obtain rfl := Option.some.inj found
    obtain ⟨before, written, stable⟩ := headerAt?_eq_some isHeader
    exact ⟨before, written, fun rest ↦ findHeader?_of_conforms (stable rest) conforms⟩
  | case5 insideWord c text other isHeader conforms ih =>
    obtain ⟨before, rfl, stable⟩ := ih found
    refine ⟨c :: before, rfl, fun rest ↦ ?_⟩
    change headerAt? insideWord (c :: before ++ '{' :: header.rest) = some other at isHeader
    rw [headerAt?_append_brace, Option.map_eq_some_iff] at isHeader
    obtain ⟨short, isShort, rfl⟩ := isHeader
    have isOther : headerAt? insideWord (c :: (before ++ '{' :: rest)) =
        some (short.extend rest) := by
      rw [← List.cons_append, headerAt?_append_brace, isShort]
      rfl
    have sameSkip : (before ++ '{' :: rest).length - (short.extend rest).rest.length =
        (before ++ '{' :: header.rest).length - (short.extend header.rest).rest.length := by
      simp only [Header.extend, List.length_append, List.length_cons]
      omega
    rw [List.cons_append, findHeader?_of_not_conforms isOther conforms, sameSkip]
    exact stable rest

end Header

/-! ## Bodies -/

/-- The words that introduce a body at a place, which are none inside a word. -/
def bodyMarkerAt? (insideWord : Bool) (text : List Char) : Option (List Char) :=
  if insideWord then none else bodyMarker? text

section Marker

variable {insideWord : Bool} {text front rest : List Char}

theorem bodyMarkerAt?_append_brace (text rest : List Char) :
    bodyMarkerAt? insideWord (text ++ '{' :: rest) =
      (bodyMarkerAt? insideWord text).map (· ++ '{' :: rest) := by
  unfold bodyMarkerAt?
  split
  · rfl
  · exact bodyMarker?_append_brace text rest

/-- The words that introduce a body stand before the brace behind them. -/
theorem bodyMarkerAt?_eq_some
    (found : bodyMarkerAt? insideWord text = some (front ++ '{' :: rest)) :
    ∃ before, text = before ++ '{' :: rest ∧
      ∀ other, bodyMarkerAt? insideWord (before ++ '{' :: other) =
        some (front ++ '{' :: other) := by
  have isMarker : bodyMarker? text = some (front ++ '{' :: rest) := by
    unfold bodyMarkerAt? at found
    split at found
    · cases found
    · exact found
  obtain ⟨words, written⟩ := suffix_of_bodyMarker? isMarker
  rw [← List.append_assoc] at written
  subst written
  rw [bodyMarkerAt?_append_brace, Option.map_eq_some_iff] at found
  obtain ⟨short, isShort, same⟩ := found
  refine ⟨words ++ front, rfl, fun other ↦ ?_⟩
  rw [bodyMarkerAt?_append_brace, isShort, List.append_cancel_right same]
  rfl

theorem findBodyMarker?_of_none {c : Char}
    (noMarker : bodyMarkerAt? insideWord (c :: text) = none) :
    findBodyMarker? insideWord (c :: text) = findBodyMarker? (isWord c) text := by
  unfold bodyMarkerAt? at noMarker
  rw [findBodyMarker?, noMarker]

theorem findBodyMarker?_of_some (isMarker : bodyMarkerAt? insideWord text = some rest) :
    findBodyMarker? insideWord text = some rest := by
  cases text with
  | nil =>
    unfold bodyMarkerAt? at isMarker
    split at isMarker
    · cases isMarker
    · cases isMarker
  | cons c text =>
    unfold bodyMarkerAt? at isMarker
    rw [findBodyMarker?, isMarker]

/-- The words that introduce a body are found by what stands before the brace behind them. -/
theorem findBodyMarker?_eq_some
    (found : findBodyMarker? insideWord text = some (front ++ '{' :: rest)) :
    ∃ before, text = before ++ '{' :: rest ∧
      ∀ other, findBodyMarker? insideWord (before ++ '{' :: other) =
        some (front ++ '{' :: other) := by
  fun_induction findBodyMarker? insideWord text with
  | case1 => cases found
  | case2 insideWord c text marked isMarker =>
    obtain rfl := Option.some.inj found
    obtain ⟨before, written, stable⟩ := bodyMarkerAt?_eq_some isMarker
    exact ⟨before, written, fun other ↦ findBodyMarker?_of_some (stable other)⟩
  | case3 insideWord c text noMarker ih =>
    obtain ⟨before, rfl, stable⟩ := ih found
    refine ⟨c :: before, rfl, fun other ↦ ?_⟩
    change bodyMarkerAt? insideWord (c :: before ++ '{' :: rest) = none at noMarker
    rw [bodyMarkerAt?_append_brace, Option.map_eq_none_iff] at noMarker
    have noOther : bodyMarkerAt? insideWord (c :: (before ++ '{' :: other)) = none := by
      rw [← List.cons_append, bodyMarkerAt?_append_brace, noMarker]
      rfl
    rw [List.cons_append, findBodyMarker?_of_none noOther]
    exact stable other

end Marker

end ViewPreview.Passage
