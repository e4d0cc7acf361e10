import ViewPreview.Proofs.Outline.Translation
import ViewPreview.Proofs.Passage.Progress

/-!
# Scanning with a Cursor and a Report

The expressions of a block may also be read by moving a cursor over its text and adding to a report.
The name, the arguments and the closures of a call are taken off the text before it is known whether
the call is a view.  When it is not, the cursor goes back to where it was; nothing has been reported
by then.  So what is skipped as a statement begins where the attempt to read it began, and its own
caveat is the only one about it.
-/

namespace ViewPreview.Passage

open ViewPreview.Call ViewPreview.Outline ViewPreview.Text

/-! ## Scanners -/

/-- A scanner: the place that its cursor is at, and what it has reported. -/
structure Scanner where
  place : Passage
  report : List Caveat

/-- A step of scanning. -/
abbrev Scanning := StateM Scanner

/-- The place of the cursor. -/
def cursor : Scanning Passage := do
  pure (← get).place

/-- Move the cursor to a place. -/
def moveCursor (place : Passage) : Scanning Unit :=
  modify fun scanner ↦ { scanner with place }

/-- A step of a translation while scanning; it does not move the cursor. -/
def reporting {α : Type} (step : Reporting α) : Scanning α := fun scanner ↦
  let (value, report) := step scanner.report
  (value, { scanner with report })

/-- Take an identifier off the text at the cursor. -/
def takeName : Scanning (Option String) := do
  let place ← cursor
  match splitIdentifier? place.text with
  | some (name, rest) => do
    moveCursor (place.moveTo rest)
    pure (some (String.ofList name))
  | none => pure none

/-- Take arguments off the text at the cursor, if there are any.  It is a failure if they are never
closed. -/
def takeArguments : Scanning (Option (Option (List Char))) := do
  let place ← cursor
  match place.callArguments? with
  | some (arguments, rest) => do
    moveCursor rest
    pure (some arguments)
  | none => pure none

/-- Take closures off the text at the cursor. -/
def takeClosures : Scanning (List Block) := do
  let place ← cursor
  moveCursor place.blocks.2
  pure place.blocks.1

/-- Take the links of a chain off the text at the cursor, and add their modifiers to a view. -/
def followChain (view : View) (scanner : Scanner) : View × Scanner :=
  match _found : scanner.place.link? with
  | some (link, rest) =>
    let (view, report) := follow view link.outline scanner.report
    followChain view ⟨rest, report⟩
  | none => (view, scanner)
termination_by scanner.place.length
decreasing_by exact (advances_link? _ _ _ _found).2

/-- Read the expression at the cursor.  Unless it is a view, the cursor goes back to its place. -/
def scanExpression : Scanning (Option View) := do
  let start ← cursor
  match ← takeName with
  | none => pure none
  | some name =>
    match ← takeArguments with
    | none => do
      moveCursor start
      pure none
    | some arguments => do
      let closures ← takeClosures
      match ← reporting (translateHead name (Scan.call ⟨name, arguments, closures, []⟩)) with
      | none => do
        moveCursor start
        pure none
      | some view => some <$> followChain view

/-- Read the statements of a block.  One that is no view is reported and passed over, from the place
at which the attempt to read it has left the cursor. -/
def scanStatements (place : Passage) : Reporting (List View) := fun report ↦
  let start := place.skipWhile fun c ↦ isAsciiBlank c || c == ';'
  if start.text.isEmpty then ([], report)
  else
    match scanExpression ⟨start, report⟩ with
    | (some view, after) =>
      if after.place.length < place.length then
        let (views, report) := scanStatements after.place after.report
        (view :: views, report)
      else ([view], after.report)
    | (none, failed) =>
      let after := failed.place.moveTo (dropStatement 0 failed.place.text)
      let report := failed.report ++
        (Problem.skippedStatement (snippet failed.place.text)).caveats failed.place.line
      if after.length < place.length then scanStatements after report
      else ([], report)
termination_by place.length

/-! ## Scanning is reading -/

/-- The view of the expression that a passage begins with, and what follows it. -/
def reading? (passage : Passage) : Option (Reading View × Passage) :=
  passage.expression?.bind fun found ↦ found.1.view?.map fun reading ↦ (reading, found.2)

/-- A report in front of the caveats of a reading stays in front of those of the links behind it. -/
theorem followLinks_report (report : List Caveat) (base : Reading View)
    (links : List (Link Outline.Expression)) :
    followLinks ⟨base.value, report ++ base.caveats⟩ links =
      ⟨(followLinks base links).value, report ++ (followLinks base links).caveats⟩ := by
  induction links generalizing base with
  | nil => rfl
  | cons link links ih =>
    have next : followLink ⟨base.value, report ++ base.caveats⟩ link =
        ⟨(followLink base link).value, report ++ (followLink base link).caveats⟩ := by
      rw [followLink_eq, followLink_eq base, List.append_assoc]
    rw [followLinks, followLinks, next, ih]

/-- A link that is followed with a report goes on from a reading with the report as its caveats. -/
theorem follow_report (view : View) (link : Link Outline.Expression) (report : List Caveat) :
    follow view link report =
      ((followLink ⟨view, report⟩ link).value, (followLink ⟨view, report⟩ link).caveats) := by
  rw [follow_eq, followLink_eq ⟨view, report⟩]
  rfl

theorem followChain_eq (view : View) (scanner : Scanner) :
    followChain view scanner =
      let chain := repeatStep link? scanner.place
      let reading := followLinks ⟨view, scanner.report⟩ (chain.1.map ChainLink.outline)
      (reading.value, ⟨chain.2, reading.caveats⟩) := by
  fun_induction followChain view scanner with
  | case1 view scanner link rest found next report moved ih =>
    rw [follow_report, Prod.mk.injEq] at moved
    obtain ⟨rfl, rfl⟩ := moved
    rw [ih, repeatStep_eq advances_link? scanner.place, found]
    rfl
  | case2 view scanner stuck =>
    rw [repeatStep_eq advances_link?, stuck]
    rfl

/-- A passage begins with a view when it begins with a name that stands for one, called as it is. -/
theorem reading?_eq (passage : Passage) :
    passage.reading? =
      (splitIdentifier? passage.text).bind fun named ↦
        (passage.moveTo named.2).callArguments?.bind fun called ↦
          let scan : Scan := ⟨String.ofList named.1, called.1, called.2.blocks.1, []⟩
          let chain := repeatStep link? called.2.blocks.2
          if namesView scan.name scan.call.isSome then
            some (followLinks (headView scan.name scan.call) (chain.1.map ChainLink.outline), chain.2)
          else none := by
  unfold reading? expression? scan?
  simp only [Option.bind_eq_bind]
  cases named : splitIdentifier? passage.text with
  | none => rfl
  | some name =>
    obtain ⟨name, afterName⟩ := name
    simp only [Option.bind_some]
    cases argued : (passage.moveTo afterName).callArguments? with
    | none => rfl
    | some called =>
      obtain ⟨arguments, called⟩ := called
      simp only [Option.bind_some, isSome_call]
      split
      · next view =>
        simp only [Option.map_some, Option.bind_some, outline_eq]
        rw [Outline.Expression.view?, isSome_call]
        exact congrArg (Option.map fun reading ↦ (reading, _)) (if_pos view)
      · rfl

section Steps

variable {α β : Type} {scanner next : Scanner} {value : α}

theorem bind_run {step : Scanning α} (others : α → Scanning β)
    (run : step scanner = (value, next)) : (step >>= others) scanner = others value next := by
  show others (step scanner).1 (step scanner).2 = _
  rw [run]

theorem takeName_eq (scanner : Scanner) :
    takeName scanner =
      match splitIdentifier? scanner.place.text with
      | some (name, rest) =>
        (some (String.ofList name), { scanner with place := scanner.place.moveTo rest })
      | none => (none, scanner) := by
  unfold takeName
  rw [bind_run _ (rfl : cursor scanner = (scanner.place, scanner))]
  cases splitIdentifier? scanner.place.text with
  | none => rfl
  | some parts => rfl

theorem takeArguments_eq (scanner : Scanner) :
    takeArguments scanner =
      match scanner.place.callArguments? with
      | some (arguments, rest) => (some arguments, { scanner with place := rest })
      | none => (none, scanner) := by
  unfold takeArguments
  rw [bind_run _ (rfl : cursor scanner = (scanner.place, scanner))]
  cases scanner.place.callArguments? with
  | none => rfl
  | some parts => rfl

theorem takeClosures_eq (scanner : Scanner) :
    takeClosures scanner = (scanner.place.blocks.1, { scanner with place := scanner.place.blocks.2 }) :=
  rfl

theorem reporting_tell? (reading : Option (Reading α)) (scanner : Scanner) :
    reporting (tell? reading) scanner =
      match reading with
      | some reading =>
        (some reading.value, { scanner with report := scanner.report ++ reading.caveats })
      | none => (none, scanner) := by
  cases reading with
  | none => rfl
  | some reading => rfl

end Steps

/-- Scanning an expression reads what the passage at the cursor begins with, and changes nothing
when that is no view. -/
theorem scanExpression_eq (scanner : Scanner) :
    scanExpression scanner =
      match scanner.place.reading? with
      | some (reading, rest) =>
        (some reading.value, ⟨rest, scanner.report ++ reading.caveats⟩)
      | none => (none, scanner) := by
  have cursorRun : cursor scanner = (scanner.place, scanner) := rfl
  have nameRun := takeName_eq scanner
  unfold scanExpression
  rw [reading?_eq, bind_run _ cursorRun]
  cases named : splitIdentifier? scanner.place.text with
  | none =>
    rw [named] at nameRun
    rw [bind_run _ nameRun]
    rfl
  | some name =>
    rw [named] at nameRun
    rw [bind_run _ nameRun, Option.bind_some]
    dsimp only
    have argumentsRun := takeArguments_eq { scanner with place := scanner.place.moveTo name.2 }
    dsimp only at argumentsRun
    cases argued : (scanner.place.moveTo name.2).callArguments? with
    | none =>
      rw [argued] at argumentsRun
      rw [bind_run _ argumentsRun]
      rfl
    | some called =>
      rw [argued] at argumentsRun
      rw [bind_run _ argumentsRun, Option.bind_some]
      dsimp only
      rw [bind_run _ (takeClosures_eq _)]
      dsimp only
      rw [translateHead_eq]
      have headRun (found : Option (Reading View)) :=
        reporting_tell? found { scanner with place := called.2.blocks.2 }
      split
      · rw [bind_run _ (headRun (some _))]
        show Prod.map some id (followChain _ _) = _
        rw [followChain_eq]
        dsimp only
        rw [followLinks_report]
        rfl
      · rw [bind_run _ (headRun none)]
        rfl

section Outcome

variable {scanner after : Scanner}

theorem exists_of_scanExpression {view : View}
    (scanned : scanExpression scanner = (some view, after)) :
    ∃ reading rest, scanner.place.reading? = some (reading, rest) ∧ view = reading.value ∧
      after = ⟨rest, scanner.report ++ reading.caveats⟩ := by
  rw [scanExpression_eq] at scanned
  split at scanned
  · next reading rest found =>
    cases scanned
    exact ⟨reading, rest, found, rfl, rfl⟩
  · cases scanned

theorem of_scanExpression_none (failed : scanExpression scanner = (none, after)) :
    scanner.place.reading? = none ∧ after = scanner := by
  rw [scanExpression_eq] at failed
  split at failed
  · cases failed
  · next unread =>
    cases failed
    exact ⟨unread, rfl⟩

end Outcome

/-! ## Statements -/

/-- Translating the first of some statements and then the others. -/
theorem translateStatements_cons (statement : Statement Outline.Expression)
    (others : List (Statement Outline.Expression)) (report : List Caveat) :
    translateStatements (statement :: others) report =
      let reading := statementView statement
      let behind := translateStatements others (report ++ reading.caveats)
      (reading.value ++ behind.1, behind.2) := by
  rw [translateStatements, translateStatement_eq]
  rfl

section Statements

variable {passage rest : Passage} {reading : Reading View}

/-- A statement that begins with a view has it as its expression. -/
theorem statement?_of_reading?
    (nonempty : ¬(passage.skipWhile fun c ↦ isAsciiBlank c || c == ';').text.isEmpty = true)
    (found : (passage.skipWhile fun c ↦ isAsciiBlank c || c == ';').reading? =
      some (reading, rest)) :
    ∃ statement, statement? passage = some (statement, rest) ∧
      statementView statement.outline = ⟨[reading.value], reading.caveats⟩ := by
  obtain ⟨⟨outline, after⟩, read, view⟩ := Option.bind_eq_some_iff.mp found
  obtain ⟨⟨scan, after⟩, scanned, same⟩ := Option.map_eq_some_iff.mp read
  cases same
  obtain ⟨own, shown, same⟩ := Option.map_eq_some_iff.mp view
  cases same
  refine ⟨⟨passage.skipWhile fun c ↦ isAsciiBlank c || c == ';', some scan⟩, ?_, ?_⟩
  · simp only [statement?, scanned]
    exact if_neg nonempty
  · rw [ScannedStatement.outline, Option.map_some, statementView, optionalView?, shown]

/-- A statement that does not begin with a view has no expression. -/
theorem statement?_of_unread
    (nonempty : ¬(passage.skipWhile fun c ↦ isAsciiBlank c || c == ';').text.isEmpty = true)
    (unread : (passage.skipWhile fun c ↦ isAsciiBlank c || c == ';').reading? = none) :
    let start := passage.skipWhile fun c ↦ isAsciiBlank c || c == ';'
    statement? passage = some (⟨start, none⟩, start.moveTo (dropStatement 0 start.text)) := by
  have noScan : (passage.skipWhile fun c ↦ isAsciiBlank c || c == ';').scan? = none := by
    refine Option.eq_none_iff_forall_ne_some.mpr fun found scanned ↦ ?_
    obtain ⟨-, -, -, -, -, isView⟩ := exists_of_scan? scanned
    rw [reading?, expression?, scanned, Option.map_some, Option.bind_some,
      Outline.Expression.view?_of_isView isView] at unread
    cases unread
  simp only [statement?, noScan]
  exact if_neg nonempty

end Statements

/-- Scanning the statements of a block makes the views of their outlines, with the same report. -/
theorem scanStatements_eq (place : Passage) (report : List Caveat) :
    scanStatements place report = translateStatements place.statementExpressions report := by
  fun_induction scanStatements place report with
  | case1 place report start empty =>
    have stuck : statement? place = none := by
      unfold statement?
      exact if_pos empty
    rw [statementExpressions_eq_nil stuck]
    rfl
  | case2 place report start nonempty view after moved shorter views behind others ih =>
    obtain ⟨reading, rest, found, rfl, rfl⟩ := exists_of_scanExpression moved
    obtain ⟨statement, first, shown⟩ := statement?_of_reading? nonempty found
    have same := ih.symm.trans others
    dsimp only at same
    rw [statementExpressions_cons first, translateStatements_cons, shown]
    dsimp only
    rw [same]
    rfl
  | case3 place report start nonempty view after moved notShorter =>
    obtain ⟨reading, rest, found, rfl, rfl⟩ := exists_of_scanExpression moved
    obtain ⟨statement, first, -⟩ := statement?_of_reading? nonempty found
    exact absurd (advances_statement? _ _ _ first).2 notShorter
  | case4 place report start nonempty failed moved after behind shorter ih =>
    obtain ⟨unread, rfl⟩ := of_scanExpression_none moved
    rw [ih, statementExpressions_cons (statement?_of_unread nonempty unread),
      translateStatements_cons]
    rfl
  | case5 place report start nonempty failed moved after behind notShorter =>
    obtain ⟨unread, rfl⟩ := of_scanExpression_none moved
    have first := statement?_of_unread nonempty unread
    exact absurd (advances_statement? _ _ _ first).2 notShorter

/-- A call with an argument and a closure that is no view, behind a caveat. -/
def refusedCall : Scanner :=
  ⟨⟨some 3, "run(2) \x7b Text(\"a\").frame() \x7d".toList⟩, [⟨some 1, .syntaxErrors⟩]⟩

/-- A statement that holds such a call under a modifier. -/
def refusedStatement : Statement Outline.Expression :=
  ⟨some 3, "run(2).bold()".toList,
    some ⟨"run", some ⟨[⟨none, "2".toList, none⟩], []⟩, [.call (some 3) "bold" {}]⟩⟩

end ViewPreview.Passage
