import Mathlib
import ViewPreview.Preview
import ViewPreview.Proofs.Passage.Declaration
import ViewPreview.Proofs.Passage.Insertion

/-!
# A `return` Before an Expression

A `return` before the expression of a body is passed over up to the blank behind it.  That blank
stays, and no expression begins with a blank.  So a body with a `return` is never read, whatever
stands behind the `return`, although the structure of the source allows for it.
-/

namespace ViewPreview.Passage

open ViewPreview.Text ViewPreview.Call ViewPreview.Outline

/-- A blank before a text does not show in its quotation. -/
theorem unsupported_cons_space (text : List Char) :
    Failure.unsupported (' ' :: text) = Failure.unsupported text := by
  unfold Failure.unsupported snippet firstLine
  rw [trim_cons_of_isBlank (by decide)]

/-- The expression behind a `return` starts with the blank behind the `return`. -/
theorem text_expressionStart_return (line : Option Nat) {blanks : List Char}
    (blank : ∀ c ∈ blanks, isAsciiBlank c = true) (expression : List Char) :
    (⟨line, blanks ++ ("return ".toList ++ expression)⟩ : Passage).expressionStart.text =
      ' ' :: expression := by
  have stops : Stops isAsciiBlank ("return ".toList ++ expression) := stops_cons.mpr (by decide)
  have skipped : (⟨line, blanks ++ ("return ".toList ++ expression)⟩ : Passage).skipBlanks.text =
      "return ".toList ++ expression := dropWhile_append_of_stops blank stops
  have word : dropStart? "return".toList ("return ".toList ++ expression) =
      some (' ' :: expression) := dropStart?_append "return".toList (' ' :: expression)
  unfold expressionStart
  simp only [skipped, word, show isBlank ' ' = true from rfl, if_true]
  rfl

/-- A body with a `return` is not read. -/
theorem view_readFrom_return {declaration : Declaration} {line : Option Nat}
    {blanks expression : List Char} (blank : ∀ c ∈ blanks, isAsciiBlank c = true) :
    (readFrom declaration ⟨line, blanks ++ ("return ".toList ++ expression)⟩).view =
      .error (Failure.unsupported expression) := by
  have start := text_expressionStart_return line blank expression
  rw [← unsupported_cons_space, ← start, Body.view, readFrom,
    expression?, scan?_of_isBlank (by decide) start]
  rfl

/-- Wherever a source is read, it is not read any more with a `return` before the expression of its
body, and the failure quotes that expression. -/
theorem exists_return_unsupported {source : List Char} {reading : Reading View}
    (read : (readBody source).bind Body.view = .ok reading) :
    ∃ front blanks expression back line declaration other,
      source = front ++ (expression ++ back) ∧
      (∀ c ∈ blanks, isAsciiBlank c = true) ∧
      body? source = some (declaration, ⟨line, blanks ++ expression⟩) ∧
      body? (front ++ ("return ".toList ++ (expression ++ back))) =
        some (other, ⟨line, blanks ++ ("return ".toList ++ expression)⟩) ∧
      (readBody (front ++ ("return ".toList ++ (expression ++ back)))).bind Body.view =
        .error (Failure.unsupported expression) := by
  have found : ∃ declaration body, body? source = some (declaration, body) := by
    cases content : readBody source with
    | error failure =>
      rw [content] at read
      cases read
    | ok content' => exact exists_body?_of_readBody content
  obtain ⟨declaration, ⟨line, text⟩, isBody⟩ := found
  have parts : text = text.takeWhile isAsciiBlank ++ text.dropWhile isAsciiBlank :=
    List.takeWhile_append_dropWhile.symm
  have blank : ∀ c ∈ text.takeWhile isAsciiBlank, isAsciiBlank c = true :=
    List.all_eq_true.mp List.all_takeWhile
  obtain ⟨front, back, written, stable⟩ := body?_insert isBody parts
  have balanced : Balanced '{' '}' "return ".toList := balanced_of_all (by decide)
  obtain ⟨other, isOther, -⟩ := stable "return ".toList balanced
  refine ⟨front, _, _, back, line, declaration, other, written, blank, ?_, isOther, ?_⟩
  · rw [← parts]
    exact isBody
  · rw [readBody_eq isOther]
    exact view_readFrom_return blank

theorem exists_return_unsupported_text :
    (readBody "struct A: View \x7b var body: some View \x7b Text(\"a\") \x7d \x7d".toList).bind
        Body.view = .ok ⟨View.ofText "a", []⟩ ∧
      ∃ front blanks expression back line declaration other,
        "struct A: View \x7b var body: some View \x7b Text(\"a\") \x7d \x7d".toList =
          front ++ (expression ++ back) ∧
        (∀ c ∈ blanks, isAsciiBlank c = true) ∧
        body? "struct A: View \x7b var body: some View \x7b Text(\"a\") \x7d \x7d".toList =
          some (declaration, ⟨line, blanks ++ expression⟩) ∧
        body? (front ++ ("return ".toList ++ (expression ++ back))) =
          some (other, ⟨line, blanks ++ ("return ".toList ++ expression)⟩) ∧
        (readBody (front ++ ("return ".toList ++ (expression ++ back)))).bind Body.view =
          .error (Failure.unsupported expression) := by
  have read : (readBody
      "struct A: View \x7b var body: some View \x7b Text(\"a\") \x7d \x7d".toList).bind
        Body.view = .ok ⟨View.ofText "a", []⟩ := by cbv
  exact ⟨read, exists_return_unsupported read⟩

/-- A text that is read by itself is refused behind a `return`. -/
theorem return_text_unsupported :
    Preview.ofSource .fallback
        "struct A: View \x7b var body: some View \x7b Text(\"a\") \x7d \x7d" =
      ⟨some (View.ofText "a"), []⟩ ∧
    Preview.ofSource .fallback
        "struct A: View \x7b var body: some View \x7b return Text(\"a\") \x7d \x7d" =
      ⟨none, ["Unsupported body expression: Text(\"a\")"]⟩ := by
  constructor
  · cbv
  · have read : (Preview.readBody .fallback (stripComments
        "struct A: View \x7b var body: some View \x7b return Text(\"a\") \x7d \x7d".toList)).bind
          Body.view = .error (Failure.unsupportedBody "Text(\"a\")") := by cbv
    rw [Preview.ofSource, read]
    rfl

end ViewPreview.Passage
