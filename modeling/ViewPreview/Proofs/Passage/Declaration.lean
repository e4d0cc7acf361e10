import ViewPreview.Passage.Declaration
import ViewPreview.Proofs.Passage.Statement

/-!
# A Declaration Around a Body

The declaration of a view with nothing but a body is found whatever the body holds, as long as the
body is balanced in braces.
-/

namespace ViewPreview.Passage

open ViewPreview.Text ViewPreview.Call ViewPreview.Outline

/-- What stands between the braces of a declaration with a body. -/
def membersText (body : List Char) : List Char :=
  " var body: some View ".toList ++ '{' :: (body ++ "\x7d ".toList)

/-- The declaration of a view with a body. -/
def declarationText (name : Identifier) (body : List Char) : List Char :=
  "struct ".toList ++ (name.chars ++ (": View ".toList ++ '{' :: (membersText body ++ ['}'])))

variable (name : Identifier) {body : List Char}

theorem afterWord?_declarationText :
    afterWord? "struct" (declarationText name body) =
      some (name.chars ++ (": View ".toList ++ '{' :: (membersText body ++ ['}']))) := by
  have word : dropStart? "struct".toList (declarationText name body) =
      some (' ' :: (name.chars ++ (": View ".toList ++ '{' :: (membersText body ++ ['}'])))) :=
    dropStart?_append "struct".toList _
  rw [afterWord?, word]
  simp only [show isBlank ' ' = true from rfl, if_true]
  rw [trimStart_identifier]

theorem header?_declarationText :
    header? (declarationText name body) =
      some ⟨name.string, " View ".toList, membersText body ++ ['}']⟩ := by
  have stops : Stops isWord (": View ".toList ++ '{' :: (membersText body ++ ['}'])) :=
    stops_cons.mpr (by decide)
  have named : name.chars.isEmpty = false := by
    rw [Bool.eq_false_iff]
    intro empty
    exact name.chars_ne_nil (List.isEmpty_iff.mp empty)
  have list : trimStart (afterGenerics (trimStart
      (": View ".toList ++ '{' :: (membersText body ++ ['}'])))) =
        ':' :: (" View ".toList ++ '{' :: (membersText body ++ ['}'])) := rfl
  have before : (" View ".toList ++ '{' :: (membersText body ++ ['}'])).takeWhile (· != '{') =
      " View ".toList := rfl
  have after : (" View ".toList ++ '{' :: (membersText body ++ ['}'])).dropWhile (· != '{') =
      '{' :: (membersText body ++ ['}']) := rfl
  rw [header?, afterWord?_declarationText]
  simp only [Option.some_or, Option.bind_eq_bind, Option.bind_some,
    name.takeWhile_isWord_append stops, name.dropWhile_isWord_append stops, list, before, after,
    named, Bool.false_or]
  rfl

theorem findHeader?_declarationText :
    findHeader? 0 false (declarationText name body) =
      some ⟨name.string, " View ".toList, membersText body ++ ['}']⟩ := by
  have found : header? (declarationText name body) = _ := header?_declarationText name
  have conforms : Header.conforms ⟨name.string, " View ".toList, membersText body ++ ['}']⟩ =
      true := rfl
  obtain ⟨c, rest, same⟩ : ∃ c rest, declarationText name body = c :: rest := ⟨_, _, rfl⟩
  rw [same] at found ⊢
  rw [findHeader?, if_neg Bool.false_ne_true, found]
  simp only [conforms, if_true]

theorem balanced_words : Balanced '{' '}' " var body: some View ".toList :=
  balanced_of_all (by decide)

theorem balanced_membersText (balanced : Balanced '{' '}' body) :
    Balanced '{' '}' (membersText body) := by
  have space : Balanced '{' '}' [' '] := balanced_of_all (by decide)
  have inBraces : Balanced '{' '}' ('{' :: (body ++ ['}'])) := balanced.enclosed (by decide)
  have braces : Balanced '{' '}' ('{' :: (body ++ "\x7d ".toList)) := by
    have together := inBraces.append space
    rw [List.cons_append, List.append_assoc] at together
    exact together
  unfold membersText
  exact balanced_words.append braces

/-- A declaration is found on the line that it starts on. -/
theorem declaration?_declarationText (balanced : Balanced '{' '}' body) :
    declaration? ⟨some 1, declarationText name body⟩ =
      some ⟨name.string, ⟨some 1, membersText body⟩, true⟩ := by
  have closed := (balanced_membersText balanced).splitClosing?_eq (by decide) []
  have moved : (⟨some 1, declarationText name body⟩ : Passage).moveTo (membersText body ++ ['}']) =
      ⟨some 1, membersText body ++ ['}']⟩ := by
    have behind {first second third : List Char} (oneLine : '\n' ∉ first ++ (second ++ third))
        (rest : List Char) :
        (⟨some 1, first ++ (second ++ (third ++ '{' :: rest))⟩ : Passage).moveTo rest =
          ⟨some 1, rest⟩ := by
      have moved := moveTo_sameLine_cons 1 oneLine (by decide : '\n' ≠ '{') rest
      rwa [List.append_assoc, List.append_assoc] at moved
    apply behind
    exact List.not_mem_append (by decide)
      (List.not_mem_append (name.not_mem_chars (by decide)) (by decide))
  rw [declaration?]
  simp only [findHeader?_declarationText, Option.map_some, closed, moved]

theorem findBodyMarker?_membersText :
    findBodyMarker? false (membersText body) = some (' ' :: '{' :: (body ++ "\x7d ".toList)) :=
  rfl

theorem bodyPassage?_membersText (balanced : Balanced '{' '}' body) (visible : trim body ≠ [])
    (line : Nat) :
    bodyPassage? ⟨some line, membersText body⟩ (' ' :: '{' :: (body ++ "\x7d ".toList)) =
      some ⟨some line, body⟩ := by
  have split : splitFirst? '{' (' ' :: '{' :: (body ++ "\x7d ".toList)) =
      some ([' '], body ++ "\x7d ".toList) := rfl
  have closed : splitClosing? '{' '}' 0 (body ++ "\x7d ".toList) = some (body, [' ']) :=
    balanced.splitClosing?_eq (by decide) [' ']
  have nonempty : (trim body).isEmpty = false := by
    rw [Bool.eq_false_iff]
    intro empty
    exact visible (List.isEmpty_iff.mp empty)
  have moved : (⟨some line, membersText body⟩ : Passage).moveTo (body ++ "\x7d ".toList) =
      ⟨some line, body ++ "\x7d ".toList⟩ :=
    moveTo_sameLine_cons line (by decide) (by decide) _
  rw [bodyPassage?, split]
  simp only [Option.bind_eq_bind, Option.bind_some, closed, nonempty, Bool.false_eq_true,
    if_false, moved]

/-- The body of a declaration is read from its start. -/
theorem readBody_declarationText (balanced : Balanced '{' '}' body) (visible : trim body ≠ []) :
    readBody (declarationText name body) =
      .ok
        { caveats := []
          text := (⟨some 1, body⟩ : Passage).expressionStart.text
          expression := (⟨some 1, body⟩ : Passage).expressionStart.expression?.map Prod.fst } := by
  rw [readBody, declaration?_declarationText name balanced]
  simp only [findBodyMarker?_membersText, bodyPassage?_membersText balanced visible]
  rfl

/-! ## Expressions of bodies -/

theorem namesView_return (isCalled : Bool) : namesView "return" isCalled = false := by
  cases isCalled <;> decide +kernel

/-- No expression begins with the word `return`. -/
theorem scan?_return {passage : Passage} {c : Char} {rest : List Char} (blank : isBlank c = true)
    (written : passage.text = "return".toList ++ c :: rest) : passage.scan? = none := by
  have ends : Stops isIdentifierPart (c :: rest) :=
    stops_cons.mpr (not_isIdentifierPart_of_isBlank blank)
  exact @scan?_eq_none _ ⟨"return".toList, by decide⟩ _ written ends namesView_return

/-- No expression begins with a blank. -/
theorem scan?_of_isBlank {passage : Passage} {c : Char} {rest : List Char}
    (blank : isBlank c = true) (written : passage.text = c :: rest) : passage.scan? = none := by
  have other : isIdentifierStart c = false := by
    rw [Bool.eq_false_iff]
    intro start
    have part := isIdentifierPart_of_isIdentifierStart start
    rw [not_isIdentifierPart_of_isBlank blank] at part
    exact Bool.noConfusion part
  rw [scan?, written, splitIdentifier?, if_neg (Bool.eq_false_iff.mp other)]
  rfl

/-- Behind a `return` a body starts with a blank. -/
theorem expressionStart_cases (body : Passage) :
    body.expressionStart = body.skipBlanks ∨
      ∃ c rest, isBlank c = true ∧ body.expressionStart = body.skipBlanks.moveTo (c :: rest) := by
  unfold expressionStart
  simp only
  split
  · next c rest word =>
    by_cases blank : isBlank c = true
    · exact Or.inr ⟨c, rest, blank, if_pos blank⟩
    · exact Or.inl (if_neg blank)
  · exact Or.inl rfl

/-- Where an expression is found, nothing was passed over before it but blanks. -/
theorem expressionStart_of_scan? {body : Passage} (scanned : body.expressionStart.scan? ≠ none) :
    body.expressionStart = body.skipBlanks := by
  rcases expressionStart_cases body with start | ⟨c, rest, blank, start⟩
  · exact start
  · rw [start] at scanned
    exact absurd (scan?_of_isBlank blank rfl) scanned

/-- Nothing is passed over before an expression but blanks. -/
theorem expressionStart_eq {body : Passage} (scanned : body.skipBlanks.scan? ≠ none) :
    body.expressionStart = body.skipBlanks := by
  unfold expressionStart
  simp only
  split
  · next c rest word =>
    apply if_neg
    intro blank
    exact scanned (scan?_return blank (append_of_dropStart? word).symm)
  · rfl

end ViewPreview.Passage
