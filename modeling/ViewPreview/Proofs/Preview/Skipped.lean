import Mathlib
import ViewPreview.Preview
import ViewPreview.Proofs.Passage.Insertion
import ViewPreview.Proofs.Passage.Line
import ViewPreview.Proofs.Passage.Spot
import ViewPreview.Proofs.Preview.Silence

/-!
# Reports of Skipped Statements

A scanned getter is reported on in part only: a statement skipped in the closures of calls and
modifiers has a message of its own, and one skipped in an argument that is a view has none, although
what is left of that argument is shown.
-/

namespace ViewPreview

open ViewPreview.Outline ViewPreview.Text

namespace Passage

/-- The caveats of a declaration as a whole concern its braces. -/
theorem filter_caveats_declaration (declaration : Declaration) :
    declaration.caveats.filter Caveat.isSkip = [] := by
  rw [Declaration.caveats]
  split
  · rfl
  · exact filter_caveats declaration.inner.line rfl

/-- What is read of a body is the view at its start, with the caveats of the declaration and its own.
-/
theorem exists_of_readFrom {declaration : Declaration} {body : Passage} {reading : Reading View}
    (read : (readFrom declaration body).view = .ok reading) :
    ∃ scan after, body.expressionStart.scan? = some (scan, after) ∧
      scan.outline.Shows reading.value ∧
      reading.caveats = declaration.caveats ++ scan.outline.caveats := by
  rw [readFrom, expression?, Body.view] at read
  cases scanned : body.expressionStart.scan? with
  | none =>
    rw [scanned] at read
    cases read
  | some found =>
    obtain ⟨scan, after⟩ := found
    rw [scanned] at read
    simp only [Option.map_some, optionalView?] at read
    cases shown : scan.outline.view? with
    | none =>
      rw [shown] at read
      cases read
    | some own =>
      rw [shown] at read
      cases read
      exact ⟨scan, after, rfl, ⟨own.caveats, shown⟩, by rw [Expression.caveats_of_view? shown]⟩

/-- The body of a view in a source has a line. -/
theorem isLocated_body {source : List Char} {declaration : Declaration} {body : Passage}
    (found : body? source = some (declaration, body)) : body.isLocated = true := by
  obtain ⟨spot, isBody, rfl⟩ := exists_bodySpot found
  rw [isLocated, (liesIn_of_bodySpot? isBody).line]
  rfl

end Passage

namespace Preview

theorem exists_of_ofReading {outcome : Except Failure (Reading View)} {view : View}
    {messages : List String} (shown : ofReading outcome = ⟨some view, messages⟩) :
    ∃ caveats, outcome = .ok ⟨view, caveats⟩ ∧ caveats.map Caveat.message = messages := by
  cases outcome with
  | error failure => cases congrArg Preview.root shown
  | ok reading =>
    cases shown
    exact ⟨reading.caveats, rfl, rfl⟩

/-- A scanned getter that is shown reports each statement skipped outside of arguments by a message
of its own, with the line it stands on, in source order.  A statement skipped in an argument stands
on no line and has no message. -/
theorem ofSource_fallback_reports {source : String} {view : View} {messages : List String}
    (shown : ofSource .fallback source = ⟨some view, messages⟩) :
    ∃ declaration body scan after, ∃ caveats : List Caveat,
      Passage.body? (stripComments source.toList) = some (declaration, body) ∧
      body.expressionStart.scan? = some (scan, after) ∧
      scan.outline.Shows view ∧
      messages = caveats.map Caveat.message ∧
      caveats.filter Caveat.isSkip =
        (outsideArguments (scan.outline.skips false)).map Skip.caveat ∧
      ∀ skip ∈ scan.outline.skips false, skip.statement.line.isSome = !skip.inArgument := by
  obtain ⟨caveats, read, rfl⟩ := exists_of_ofReading shown
  change (Passage.readBody (stripComments source.toList)).bind Body.view = _ at read
  obtain ⟨declaration, body, found⟩ : ∃ declaration body,
      Passage.body? (stripComments source.toList) = some (declaration, body) := by
    cases content : Passage.readBody (stripComments source.toList) with
    | error failure =>
      rw [content] at read
      cases read
    | ok body => exact Passage.exists_body?_of_readBody content
  rw [Passage.readBody_eq found] at read
  obtain ⟨scan, after, scanned, ⟨own, isRead⟩, same⟩ := Passage.exists_of_readFrom read
  have placed : scan.outline.Placed true := by
    apply Passage.placed_outline
    have ofScan := Passage.placed_scan scanned
    rw [(Passage.leads_expressionStart body).isLocated_eq, Passage.isLocated_body found] at ofScan
    exact ofScan
  refine ⟨declaration, body, scan, after, caveats, found, scanned, ⟨own, isRead⟩, rfl, ?reports, ?lines⟩
  case reports =>
    calc caveats.filter Caveat.isSkip
      _ = (declaration.caveats ++ scan.outline.caveats).filter Caveat.isSkip := by rw [← same]
      _ = scan.outline.caveats.filter Caveat.isSkip := by
        rw [List.filter_append, Passage.filter_caveats_declaration, List.nil_append]
      _ = (outsideArguments (scan.outline.skips false)).map Skip.caveat :=
        filter_caveats_eq scan.outline (Expression.isView_of_view? isRead) placed
  case lines =>
    intro skip member
    exact line_of_mem_skips scan.outline placed member

/-- A link with a statement that is skipped in its destination, and another one in its closure. -/
def skippedDestination : String :=
  "struct A: View \x7b var body: some View \x7b " ++
    "NavigationLink(destination: VStack \x7b foo() \x7d) \x7b bar() \x7d \x7d \x7d"

theorem messages_skippedDestination :
    (ofSource .fallback skippedDestination).root.isSome = true ∧
      (ofSource .fallback skippedDestination).messages =
        ["line 1: Skipped unsupported statement: bar()"] := by
  decide +kernel

theorem reports_skippedDestination :
    ∃ view, ofSource .fallback skippedDestination =
        ⟨some view, ["line 1: Skipped unsupported statement: bar()"]⟩ ∧
      ∃ declaration body scan after, ∃ caveats : List Caveat,
        Passage.body? (stripComments skippedDestination.toList) = some (declaration, body) ∧
        body.expressionStart.scan? = some (scan, after) ∧
        scan.outline.Shows view ∧
        ["line 1: Skipped unsupported statement: bar()"] = caveats.map Caveat.message ∧
        caveats.filter Caveat.isSkip =
          (outsideArguments (scan.outline.skips false)).map Skip.caveat ∧
        ∀ skip ∈ scan.outline.skips false, skip.statement.line.isSome = !skip.inArgument := by
  obtain ⟨shown, messages⟩ := messages_skippedDestination
  obtain ⟨view, root⟩ := Option.isSome_iff_exists.mp shown
  have whole : ofSource .fallback skippedDestination =
      ⟨some view, ["line 1: Skipped unsupported statement: bar()"]⟩ := by
    rw [← root, ← messages]
  exact ⟨view, whole, ofSource_fallback_reports whole⟩

/-- The statement skipped in the destination has no message, although a link with this destination
is shown.  Found by its structure, both statements are reported. -/
theorem skippedDestination_unreported :
    (ofSource .fallback skippedDestination).root.map View.kind = some .navigationLink ∧
    (ofSource .fallback skippedDestination).messages =
      ["line 1: Skipped unsupported statement: bar()"] ∧
    (((Passage.body? (stripComments skippedDestination.toList)).bind fun found ↦
        found.2.expressionStart.scan?).map fun scanned ↦
      (scanned.1.outline.skips false).map fun skip ↦ (skip.caveat, skip.inArgument)) =
        some [(⟨none, .skippedStatement "foo()"⟩, true),
          (⟨some 1, .skippedStatement "bar()"⟩, false)] ∧
    (ofSource .structural skippedDestination).messages =
      ["line 1: Skipped unsupported statement: foo()",
        "line 1: Skipped unsupported statement: bar()"] := by
  have scanned : (ofSource .fallback skippedDestination).root.map View.kind = some .navigationLink ∧
      (((Passage.body? (stripComments skippedDestination.toList)).bind fun found ↦
          found.2.expressionStart.scan?).map fun scanned ↦
        (scanned.1.outline.skips false).map fun skip ↦ (skip.caveat, skip.inArgument)) =
          some [(⟨none, .skippedStatement "foo()"⟩, true),
            (⟨some 1, .skippedStatement "bar()"⟩, false)] := by
    decide +kernel
  refine ⟨scanned.1, messages_skippedDestination.2, scanned.2, ?structural⟩
  case structural =>
    unfold ofSource readBody
    simp only [Backend.resolved]
    unfold readStructure itemsOf
    rw [tokens_eq_tokensWithin]
    decide +kernel

end Preview

end ViewPreview
