import Mathlib
import ViewPreview.Preview
import ViewPreview.Proofs.Passage.Insertion
import ViewPreview.Proofs.Token.Lexeme
import ViewPreview.Proofs.Token.Located

/-!
# Previews Without Messages

A preview has a view and no message exactly when the expression that its getter begins with is
complete.  What stands behind that expression does not count: further statements of the getter, and
with a scanned getter any text, are left out of the view without a message.
-/

namespace ViewPreview

open ViewPreview.Outline ViewPreview.Text

/-! ## Readings without caveats -/

namespace Outline

/-- Whether an expression stands for a view, with or without caveats. -/
def Expression.Shows (expression : Expression) (view : View) : Prop :=
  ∃ caveats, expression.view? = some ⟨view, caveats⟩

theorem Expression.view?_eq_some_nil_iff {expression : Expression} {view : View} :
    expression.view? = some ⟨view, []⟩ ↔
      expression.Shows view ∧ expression.CompleteWhereLocated := by
  have complete {caveats : List Caveat} (read : expression.view? = some ⟨view, caveats⟩) :
      caveats = [] ↔ expression.CompleteWhereLocated := by
    rw [← Expression.caveats_eq_nil_iff (Expression.isView_of_view? read), Expression.caveats_of_view? read]
  constructor
  · intro read
    exact ⟨⟨[], read⟩, (complete read).mp rfl⟩
  · rintro ⟨⟨caveats, read⟩, whole⟩
    rw [read, (complete read).mpr whole]

theorem Body.view_eq_ok_nil_iff {body : Body Caveat} {view : View} :
    body.view = .ok ⟨view, []⟩ ↔
      body.caveats = [] ∧ ∃ expression, body.expression = some expression ∧
        expression.Shows view ∧ expression.CompleteWhereLocated := by
  obtain ⟨caveats, text, _ | expression⟩ := body
  · constructor
    · intro read
      cases read
    · rintro ⟨-, expression, found, -⟩
      cases found
  · simp only [Option.some.injEq, exists_eq_left', ← Expression.view?_eq_some_nil_iff]
    rw [Body.view, optionalView?]
    cases expression.view? with
    | none =>
      constructor
      · intro read
        cases read
      · rintro ⟨-, found⟩
        cases found
    | some reading =>
      obtain ⟨shown, own⟩ := reading
      simp only [Except.ok.injEq, Reading.mk.injEq, Option.some.injEq, List.append_eq_nil_iff]
      exact and_left_comm

end Outline

namespace Preview

theorem ofReading_eq_silent_iff {outcome : Except Failure (Reading View)} {view : View} :
    ofReading outcome = ⟨some view, []⟩ ↔ outcome = .ok ⟨view, []⟩ := by
  cases outcome with
  | error failure =>
    constructor
    · intro same
      cases congrArg Preview.root same
    · intro same
      cases same
  | ok reading =>
    obtain ⟨shown, caveats⟩ := reading
    simp only [ofReading, Preview.mk.injEq, Option.some.injEq, List.map_eq_nil_iff, Except.ok.injEq,
      Reading.mk.injEq]

end Preview

/-! ## Getters found by structure -/

theorem beforeJoined_eq_self {parts : List Part} (separated : holdsJoined parts = false) :
    beforeJoined parts = parts := by
  by_cases empty : parts = []
  · rw [empty]
    rfl
  · obtain ⟨count, -, kept⟩ := exists_beforeJoined empty
    rw [holdsJoined, kept, decide_eq_false_iff_not, Nat.not_lt] at separated
    rw [kept]
    exact (List.take_prefix count parts).eq_of_length_le separated

theorem readStatement_silent_iff {malformed : Bool} {first : List Part} {view : View} :
    (readStatement malformed first).view = .ok ⟨view, []⟩ ↔
      malformed = false ∧ ∃ expression, (statementOutline first).expression = some expression ∧
        expression.Shows view ∧ expression.CompleteWhereLocated := by
  rw [Body.view_eq_ok_nil_iff, readStatement]
  cases malformed with
  | false => exact and_congr_left' (iff_of_true rfl rfl)
  | true => exact and_congr_left' (iff_of_false (List.cons_ne_nil _ _) Bool.noConfusion)

/-- Without malformed parts the expression of the first statement is the whole statement, and
everything in it has a line. -/
theorem expression_of_wellFormed {source : List Char} {unbalanced : Bool} {parts first : List Part}
    {others : List (List Part)} (found : getterParts? source = some (unbalanced, parts))
    (cut : statementsOf .block Part.item parts = first :: others)
    (wellFormed : isMalformed unbalanced parts = false) :
    (statementOutline first).expression = statementExpression? first ∧
      ∀ expression, statementExpression? first = some expression →
        (expression.CompleteWhereLocated ↔ expression.Complete) := by
  rw [isMalformed, cut, List.any_cons] at wellFormed
  obtain ⟨-, separated⟩ := Bool.or_eq_false_iff.mp wellFormed
  obtain ⟨ofFirst, -⟩ := Bool.or_eq_false_iff.mp separated
  have whole : (statementOutline first).expression = statementExpression? first := by
    rw [statementOutline, beforeJoined_eq_self ofFirst]
  refine ⟨whole, fun expression read ↦ ?_⟩
  exact (located_getter found cut (whole.trans read)).complete_iff

/-- A source is read by its structure without a caveat exactly when the first statement of its
getter is a view as a whole and complete; the other statements do not count. -/
theorem readStructure_silent_iff {source : List Char} {view : View} :
    (readStructure source).bind Body.view = .ok ⟨view, []⟩ ↔
      ∃ unbalanced parts first others expression,
        getterParts? source = some (unbalanced, parts) ∧
        statementsOf .block Part.item parts = first :: others ∧
        isMalformed unbalanced parts = false ∧
        statementExpression? first = some expression ∧
        expression.Shows view ∧ expression.Complete := by
  constructor
  · intro silent
    cases content : readStructure source with
    | error failure =>
      rw [content] at silent
      cases silent
    | ok body =>
      obtain ⟨unbalanced, parts, first, others, found, cut⟩ :=
        exists_getterParts_of_readStructure content
      rw [readStructure_eq found cut] at silent
      obtain ⟨wellFormed, expression, read, shows', complete⟩ := readStatement_silent_iff.mp silent
      obtain ⟨whole, strict⟩ := expression_of_wellFormed found cut wellFormed
      rw [whole] at read
      exact ⟨unbalanced, parts, first, others, expression, found, cut, wellFormed, read, shows',
        (strict expression read).mp complete⟩
  · rintro ⟨unbalanced, parts, first, others, expression, found, cut, wellFormed, read, shows',
      complete⟩
    obtain ⟨whole, strict⟩ := expression_of_wellFormed found cut wellFormed
    rw [readStructure_eq found cut]
    exact readStatement_silent_iff.mpr ⟨wellFormed, expression, whole.trans read, shows',
      (strict expression read).mpr complete⟩

/-! ## Scanned getters -/

namespace Passage

/-- A declaration of a source is free of caveats when its braces are closed. -/
theorem caveats_declaration_eq_nil_iff {source : List Char} {declaration : Declaration}
    (found : declaration? ⟨some 1, source⟩ = some declaration) :
    declaration.caveats = [] ↔ declaration.closed = true := by
  obtain ⟨header, -, rfl⟩ := Option.map_eq_some_iff.mp found
  simp only
  split
  · exact iff_of_true rfl rfl
  · refine iff_of_false ?_ Bool.false_ne_true
    rw [Declaration.caveats, if_neg Bool.false_ne_true, Problem.caveats_eq_nil_iff]
    exact Option.some_ne_none _

theorem declaration?_of_body? {source : List Char} {declaration : Declaration} {body : Passage}
    (found : body? source = some (declaration, body)) :
    declaration? ⟨some 1, source⟩ = some declaration := by
  simp only [body?, Option.bind_eq_bind, Option.bind_eq_some_iff] at found
  obtain ⟨other, isDeclaration, marked, -, passage, -, same⟩ := found
  cases same
  exact isDeclaration

theorem readFrom_silent_iff {source : List Char} {declaration : Declaration} {body : Passage}
    (found : body? source = some (declaration, body)) {view : View} :
    (readFrom declaration body).view = .ok ⟨view, []⟩ ↔
      declaration.closed = true ∧ ∃ scan after, body.expressionStart.scan? = some (scan, after) ∧
        scan.outline.Shows view ∧ scan.outline.CompleteWhereLocated := by
  rw [Body.view_eq_ok_nil_iff, readFrom,
    caveats_declaration_eq_nil_iff (declaration?_of_body? found), expression?]
  refine and_congr_right fun _ ↦ ?_
  cases body.expressionStart.scan? with
  | none =>
    constructor
    · rintro ⟨expression, ⟨⟩, complete⟩
    · rintro ⟨scan, after, ⟨⟩, complete⟩
  | some scanned =>
    obtain ⟨scan, after⟩ := scanned
    constructor
    · rintro ⟨expression, ⟨⟩, complete⟩
      exact ⟨scan, after, rfl, complete⟩
    · rintro ⟨scan, after, ⟨⟩, complete⟩
      exact ⟨scan.outline, rfl, complete⟩

/-- A source is read by its words without a caveat exactly when the expression at the start of its
body is a view and complete as far as it has lines; what follows the expression does not count. -/
theorem readBody_silent_iff {source : List Char} {view : View} :
    (readBody source).bind Body.view = .ok ⟨view, []⟩ ↔
      ∃ declaration body scan after, body? source = some (declaration, body) ∧
        declaration.closed = true ∧ body.expressionStart.scan? = some (scan, after) ∧
        scan.outline.Shows view ∧ scan.outline.CompleteWhereLocated := by
  constructor
  · intro silent
    cases content : readBody source with
    | error failure =>
      rw [content] at silent
      cases silent
    | ok read =>
      obtain ⟨declaration, body, found⟩ := exists_body?_of_readBody content
      rw [readBody_eq found] at silent
      obtain ⟨closed, scan, after, scanned, complete⟩ := (readFrom_silent_iff found).mp silent
      exact ⟨declaration, body, scan, after, found, closed, scanned, complete⟩
  · rintro ⟨declaration, body, scan, after, found, closed, scanned, complete⟩
    rw [readBody_eq found]
    exact (readFrom_silent_iff found).mpr ⟨closed, scan, after, scanned, complete⟩

end Passage

namespace Preview

/-- A getter with two texts, of which the second one is left out without a message. -/
def twoTexts : String :=
  "struct A: View \x7b var body: some View \x7b Text(\"a\")\nText(\"b\") \x7d \x7d"

end Preview

end ViewPreview
