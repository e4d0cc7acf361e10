import ViewPreview.Proofs.Passage.Scan
import ViewPreview.Proofs.Passage.Search

/-!
# Inserting Into a Body

A text that is balanced in braces can be inserted anywhere into the body that a source is read from.
The source with the insertion is read from the same declaration, from the body with the insertion,
and everything before the insertion keeps its line.
-/

namespace ViewPreview.Passage

open ViewPreview.Text ViewPreview.Call ViewPreview.Outline

/-! ## The body that is read -/

/-- The declaration and the body that a source is read from. -/
def body? (source : List Char) : Option (Declaration × Passage) := do
  let declaration ← declaration? ⟨some 1, source⟩
  let marked ← findBodyMarker? false declaration.inner.text
  let body ← bodyPassage? declaration.inner marked
  some (declaration, body)

/-- What is read of a body in a declaration. -/
def readFrom (declaration : Declaration) (body : Passage) : Body Caveat :=
  { caveats := declaration.caveats
    text := body.expressionStart.text
    expression := body.expressionStart.expression?.map Prod.fst }

variable {source : List Char} {declaration : Declaration} {body : Passage}

theorem readBody_eq (found : body? source = some (declaration, body)) :
    readBody source = .ok (readFrom declaration body) := by
  simp only [body?, Option.bind_eq_bind, Option.bind_eq_some_iff] at found
  obtain ⟨declaration', isDeclaration, marked, isMarked, body', isBody, same⟩ := found
  cases same
  rw [readBody, isDeclaration]
  simp only [isMarked, isBody]
  rfl

theorem exists_body?_of_readBody {content : Body Caveat} (read : readBody source = .ok content) :
    ∃ declaration body, body? source = some (declaration, body) := by
  rw [readBody] at read
  cases isDeclaration : declaration? ⟨some 1, source⟩ with
  | none =>
    rw [isDeclaration] at read
    cases read
  | some declaration =>
    cases isMarked : findBodyMarker? false declaration.inner.text with
    | none =>
      simp only [isDeclaration, isMarked] at read
      cases read
    | some marked =>
      cases isBody : bodyPassage? declaration.inner marked with
      | none =>
        simp only [isDeclaration, isMarked, isBody] at read
        cases read
      | some body =>
        refine ⟨declaration, body, ?_⟩
        simp only [body?, isDeclaration, Option.bind_eq_bind, Option.bind_some, isMarked, isBody]

/-! ## Insertions -/

section Insertion

variable {front inserted back : List Char}

theorem declaration?_of_unclosed {name : String} {conformances rest : List Char}
    (isHeader : findHeader? 0 false (front ++ '{' :: rest) = some ⟨name, conformances, rest⟩)
    (unclosed : splitClosing? '{' '}' 0 rest = none) :
    declaration? ⟨some 1, front ++ '{' :: rest⟩ =
      some ⟨name, ⟨some (1 + lineFeeds (front ++ ['{'])), rest⟩, false⟩ := by
  rw [declaration?, isHeader]
  simp only [Option.map_some, unclosed, moveTo_append_cons]

theorem declaration?_of_closed {name : String} {conformances inner rest after : List Char}
    (isHeader : findHeader? 0 false (front ++ '{' :: rest) = some ⟨name, conformances, rest⟩)
    (closed : splitClosing? '{' '}' 0 rest = some (inner, after)) :
    declaration? ⟨some 1, front ++ '{' :: rest⟩ =
      some ⟨name, ⟨some (1 + lineFeeds (front ++ ['{'])), inner⟩, true⟩ := by
  rw [declaration?, isHeader]
  simp only [Option.map_some, closed, moveTo_append_cons]

/-- An insertion into a declaration leaves the declaration where it is. -/
theorem declaration?_insert (found : declaration? ⟨some 1, source⟩ = some declaration)
    (inner : declaration.inner.text = front ++ back) :
    ∃ before after, source = before ++ (back ++ after) ∧
      ∀ inserted, Balanced '{' '}' inserted →
        declaration? ⟨some 1, before ++ (inserted ++ (back ++ after))⟩ =
          some { declaration with
            inner := ⟨declaration.inner.line, front ++ (inserted ++ back)⟩ } := by
  have isFound := found
  obtain ⟨header, isHeader, -⟩ := Option.map_eq_some_iff.mp isFound
  obtain ⟨before, written, stable⟩ := findHeader?_eq_some isHeader
  obtain ⟨name, conformances, rest⟩ := header
  change source = before ++ '{' :: rest at written
  subst written
  have whole (middle : List Char) :
      before ++ '{' :: (front ++ middle) = before ++ '{' :: front ++ middle := by
    rw [List.append_assoc, List.cons_append]
  cases split : splitClosing? '{' '}' 0 rest with
  | none =>
    rw [declaration?_of_unclosed isHeader split] at found
    obtain rfl := Option.some.inj found
    change rest = front ++ back at inner
    subst inner
    refine ⟨before ++ '{' :: front, [], ?_, fun inserted balanced ↦ ?_⟩
    · rw [whole, List.append_nil]
    · have unclosed := splitClosing?_insert_eq_none balanced split
      rw [List.append_nil, ← whole]
      exact declaration?_of_unclosed (stable _) unclosed
  | some parts =>
    obtain ⟨text, after⟩ := parts
    rw [declaration?_of_closed isHeader split] at found
    obtain rfl := Option.some.inj found
    change text = front ++ back at inner
    subst inner
    have shape : rest = front ++ (back ++ '}' :: after) := by
      rw [append_of_splitClosing? split, List.append_assoc]
    subst shape
    refine ⟨before ++ '{' :: front, '}' :: after, whole _, fun inserted balanced ↦ ?_⟩
    have closed := splitClosing?_insert balanced split
    rw [← whole]
    exact declaration?_of_closed (stable _) closed

theorem bodyPassage?_eq {inner : Passage} {words rest text after : List Char}
    (absent : '{' ∉ words) (closed : splitClosing? '{' '}' 0 rest = some (text, after))
    (visible : trim text ≠ []) :
    bodyPassage? inner (words ++ '{' :: rest) = some ⟨(inner.moveTo rest).line, text⟩ := by
  have nonempty : (trim text).isEmpty = false := List.isEmpty_eq_false_iff.mpr visible
  rw [bodyPassage?, splitFirst?_append absent]
  simp only [Option.bind_eq_bind, Option.bind_some, closed, nonempty, Bool.false_eq_true, if_false]

/-- The body that is found stands behind the first brace after the words that introduce it. -/
theorem exists_of_bodyPassage? {inner : Passage} {marked : List Char}
    (found : bodyPassage? inner marked = some body) :
    ∃ words rest after, marked = words ++ '{' :: rest ∧ '{' ∉ words ∧
      splitClosing? '{' '}' 0 rest = some (body.text, after) ∧ trim body.text ≠ [] ∧
        body.line = (inner.moveTo rest).line := by
  simp only [bodyPassage?, Option.bind_eq_bind, Option.bind_eq_some_iff] at found
  obtain ⟨⟨words, rest⟩, opens, ⟨text, after⟩, closed, found⟩ := found
  obtain ⟨whole, absent⟩ := append_of_splitFirst? opens
  split at found
  · cases found
  · next visible =>
    cases found
    refine ⟨words, rest, after, whole.symm, absent, closed, ?_, rfl⟩
    intro empty
    exact visible (List.isEmpty_iff.mpr empty)

/-- An insertion into a body leaves the body where it is. -/
theorem bodyPassage?_insert {inner : Passage} {marked : List Char}
    (isMarked : findBodyMarker? false inner.text = some marked)
    (found : bodyPassage? inner marked = some body) (text : body.text = front ++ back) :
    ∃ before after, inner.text = before ++ (back ++ after) ∧
      ∀ inserted, Balanced '{' '}' inserted → ∃ marked',
        findBodyMarker? false (before ++ (inserted ++ (back ++ after))) = some marked' ∧
          bodyPassage? ⟨inner.line, before ++ (inserted ++ (back ++ after))⟩ marked' =
            some ⟨body.line, front ++ (inserted ++ back)⟩ := by
  obtain ⟨words, rest, after, rfl, absent, closed, visible, line⟩ := exists_of_bodyPassage? found
  obtain ⟨before, written, stable⟩ := findBodyMarker?_eq_some isMarked
  obtain ⟨start, innerText⟩ := inner
  change innerText = before ++ '{' :: rest at written
  subst written
  rw [text] at closed visible
  have shape : rest = front ++ (back ++ '}' :: after) := by
    rw [append_of_splitClosing? closed, List.append_assoc]
  subst shape
  have whole (middle : List Char) :
      before ++ '{' :: (front ++ middle) = before ++ '{' :: front ++ middle := by
    rw [List.append_assoc, List.cons_append]
  refine ⟨before ++ '{' :: front, '}' :: after, whole _, fun inserted balanced ↦ ?_⟩
  have visibleStill : trim (front ++ (inserted ++ back)) ≠ [] := by
    intro empty
    apply visible
    rw [trim_eq_nil_iff] at empty ⊢
    intro c member
    apply empty
    simp only [List.mem_append] at member ⊢
    exact member.elim Or.inl fun later ↦ Or.inr (Or.inr later)
  have closedStill := splitClosing?_insert balanced closed
  rw [← whole]
  refine ⟨_, stable _, ?_⟩
  rw [bodyPassage?_eq absent closedStill visibleStill, moveTo_append_cons, line,
    moveTo_append_cons]

/-- A text that is inserted into the body of a source is read as a part of that body. -/
theorem body?_insert (found : body? source = some (declaration, body))
    (text : body.text = front ++ back) :
    ∃ before after, source = before ++ (back ++ after) ∧
      ∀ inserted, Balanced '{' '}' inserted → ∃ other,
        body? (before ++ (inserted ++ (back ++ after))) =
            some (other, ⟨body.line, front ++ (inserted ++ back)⟩) ∧
          other.caveats = declaration.caveats := by
  simp only [body?, Option.bind_eq_bind, Option.bind_eq_some_iff] at found
  obtain ⟨declaration', isDeclaration, marked, isMarked, body', isBody, same⟩ := found
  cases same
  obtain ⟨opening, closing, inner, insideStable⟩ := bodyPassage?_insert isMarked isBody text
  obtain ⟨before, after, whole, outsideStable⟩ := declaration?_insert isDeclaration inner
  refine ⟨before, closing ++ after, ?_, fun inserted balanced ↦ ?_⟩
  · rw [whole, List.append_assoc]
  · have isDeclarationStill := outsideStable inserted balanced
    obtain ⟨marked', isMarkedStill, isBodyStill⟩ := insideStable inserted balanced
    rw [List.append_assoc] at isDeclarationStill
    have isBodyOfSource :
        body? (before ++ (inserted ++ (back ++ (closing ++ after)))) =
          some (⟨declaration.name,
              ⟨declaration.inner.line, opening ++ (inserted ++ (back ++ closing))⟩,
              declaration.closed⟩, ⟨body.line, front ++ (inserted ++ back)⟩) := by
      simp only [body?, isDeclarationStill, Option.bind_eq_bind, Option.bind_some, isMarkedStill,
        isBodyStill]
    exact ⟨_, isBodyOfSource, rfl⟩

end Insertion

end ViewPreview.Passage
