import Mathlib.Data.List.TakeWhile
import ViewPreview.Proofs.Passage.Insertion
import ViewPreview.Proofs.Passage.Nested
import ViewPreview.Proofs.Passage.Outline
import ViewPreview.Proofs.Passage.Readers

/-!
# Scanning Is Total

Scanning a source by its bytes, with everything checked that could go wrong, never goes wrong,
whatever the source is.  It finds what scanning by characters finds.
-/

namespace ViewPreview.Passage

open ViewPreview.Text ViewPreview.Call ViewPreview.Outline

namespace Cursor

/-! ## Nested expressions -/

theorem splitParameter_eq (inner : Passage) :
    splitParameter inner = .ok inner.splitParameter := by
  unfold splitParameter Passage.splitParameter
  cases named : parameter? inner.text with
  | none => rfl
  | some parts =>
    obtain ⟨name, rest⟩ := parts
    obtain ⟨front, shape⟩ := suffix_of_parameter? named
    have place := At.of_append shape.symm
    have count : matchLength inner.text rest = utf8Length front := by
      rw [← shape, matchLength_append]
    simp only [count, place.passageFrom_eq, map_ok]

theorem mapM_eq {α β : Type} {read : α → Checked β} {value : α → β} {items : List α}
    (all : ∀ item ∈ items, read item = .ok (value item)) :
    items.mapM read = .ok (items.map value) := by
  induction items with
  | nil => rfl
  | cons item items ih =>
    obtain ⟨first, others⟩ := List.forall_mem_cons.mp all
    rw [List.mapM_cons, first, ih others]
    rfl

/-- Whether expressions that are scanned in texts shorter than a bound are read as they are read
without checks. -/
def Reads {bound : Nat} (read : Shorter bound) : Prop :=
  ∀ size shorter scan, scan.FitsIn size → read size shorter scan = .ok scan.outline

section Outlines

variable {bound : Nat} {read : Shorter bound}

theorem argument_eq (reads : Reads read) (item : Call.Argument)
    (shorter : utf8Length item.text < bound) :
    argument read item = .ok (argumentExpression item) := by
  have trimmed : utf8Length (trim item.text) < bound :=
    Nat.lt_of_le_of_lt (utf8Length_le_of_isInfix (isInfix_trim item.text)) shorter
  have place := At.start ⟨none, trim item.text⟩
  rw [argument, dif_pos trimmed]
  simp only [scan_eq place, ok_bind, argumentExpression, wholeScan?]
  cases scanned : scan? ⟨none, trim item.text⟩ with
  | none => rfl
  | some parts =>
    obtain ⟨scan, rest⟩ := parts
    have toRest := (advances_scan? _ scan rest scanned).1
    have toEnd : Leads rest rest.skipBlanks := leads_skipWhile isAsciiBlank rest
    have restPlace := place.further toRest
    have atEnd : utf8Length (trim item.text) ≤ skip asciiBlanks ⟨none, trim item.text⟩
          (0 + distance ⟨none, trim item.text⟩ rest) ↔ rest.text.all isAsciiBlank = true := by
      rw [skipBlanks_eq restPlace, List.all_eq_true, ← List.dropWhile_eq_nil_iff]
      exact (restPlace.further toEnd).size_le_iff
    have fits := fitsIn_of_scan? scanned
    simp only [reached, Option.map_some, atEnd]
    split
    · rw [reads _ trimmed scan fits]
      rfl
    · rfl

theorem arguments_eq (reads : Reads read) (text : List Char) (shorter : utf8Length text < bound) :
    arguments read text = .ok (argumentExpressions text) :=
  mapM_eq fun item member ↦
    argument_eq reads item (Nat.lt_of_le_of_lt (utf8Length_le_of_mem_argumentsOf member) shorter)

theorem calledArguments_eq (reads : Reads read) {written : Option (List Char)}
    (shorter : ∀ text ∈ written, utf8Length text < bound) :
    calledArguments read written = .ok ((written.map argumentExpressions).getD []) := by
  cases written with
  | none => rfl
  | some text => exact arguments_eq reads text (shorter text rfl)

theorem statementOutline_eq {body : Passage} {readScan : Scan → Checked Expression}
    (reads : ∀ scan : Scan, scan.FitsIn (utf8Length body.text) → readScan scan = .ok scan.outline)
    {statement : ScannedStatement} (member : statement ∈ body.scannedStatements) :
    statementOutline readScan statement = .ok statement.outline := by
  obtain ⟨leads, scanned, -⟩ := exists_of_mem_scannedStatements member
  obtain ⟨start, scan?⟩ := statement
  cases scan? with
  | none => rfl
  | some scan =>
    obtain ⟨⟨scan', rest⟩, found, same⟩ := Option.map_eq_some_iff.mp scanned.symm
    cases same
    have read := reads scan' ((fitsIn_of_scan? found).mono leads.utf8Length_le)
    simp only [statementOutline, read, map_ok]
    rfl

theorem closure_eq (reads : Reads read) (label : Option String) (inner : Passage)
    (shorter : utf8Length inner.text < bound) :
    closure read label inner = .ok (closureExpression label inner) := by
  have bounds := And.intro (leads_splitParameter inner).utf8Length_le shorter
  have readsShorter := reads _ (Nat.lt_of_le_of_lt bounds.1 bounds.2)
  have statements := mapM_eq fun statement
      (member : statement ∈ inner.splitParameter.2.scannedStatements) ↦
    statementOutline_eq readsShorter member
  rw [closure, splitParameter_eq, ok_bind]
  dsimp only
  rw [dif_pos bounds, statements_eq, ok_bind, statements]
  rfl

theorem linkOutline_eq (reads : Reads read) (link : ChainLink) (fits : link.FitsIn bound) :
    linkOutline read link = .ok link.outline := by
  cases link with
  | unread line name => rfl
  | call line name text inner =>
    have closures : inner.toList.mapM (closure read none) =
        .ok (inner.toList.map (closureExpression none)) :=
      mapM_eq fun passage member ↦
        closure_eq reads none passage (fits.2 passage (Option.mem_toList.mp member))
    rw [linkOutline, arguments_eq reads text fits.1, ok_bind, closures]
    rfl

end Outlines

/-- Everything that is nested in an expression is read, as each nested text is shorter. -/
theorem outline_eq (size : Nat) (scan : Scan) (fits : scan.FitsIn size) :
    outline size scan = .ok scan.outline := by
  induction size using Nat.strongRecOn generalizing scan with
  | ind size ih =>
    have reads : @Reads size fun smaller _ inner ↦ outline smaller inner :=
      fun smaller shorter inner fitsInner ↦ ih smaller shorter inner fitsInner
    have closures := mapM_eq fun block member ↦
      closure_eq reads block.label block.inner (fits.blocks block member)
    have links := mapM_eq fun link member ↦ linkOutline_eq reads link (fits.links link member)
    rw [outline, calledArguments_eq reads fits.arguments, closures, links, Passage.outline_eq]
    rfl

theorem expression_eq {whole passage : Passage} {cursor : Nat} (place : At whole cursor passage) :
    expression whole cursor = .ok (passage.expression?.map Prod.fst) := by
  rw [expression, scan_eq place, ok_bind, expression?]
  cases scanned : passage.scan? with
  | none => rfl
  | some parts =>
    obtain ⟨scan, rest⟩ := parts
    have fits := (fitsIn_of_scan? scanned).mono place.leads.utf8Length_le
    simp only [reached, Option.map_some, outline_eq _ scan fits, map_ok]

/-! ## Bodies -/

theorem moveTo_moveTo (source : Passage) {middle rest : List Char} (first : middle <:+ source.text)
    (second : rest <:+ middle) : (source.moveTo middle).moveTo rest = source.moveTo rest := by
  have toRest : Leads (source.moveTo middle) ((source.moveTo middle).moveTo rest) := .moveTo second
  exact ((Leads.moveTo first).trans toRest).placed

section Bodies

variable {source : Passage} {before rest : List Char}

/-- A block whose brace is at a cursor. -/
theorem block_brace_eq (written : source.text = before ++ '{' :: rest) :
    ∃ next, block '{' '}' source (utf8Length before) =
      .ok ((splitClosing? '{' '}' 0 rest).map fun parts ↦
        (⟨(source.moveTo rest).line, parts.1⟩, next)) := by
  have behind := moveTo_moveTo source ⟨before, written.symm⟩ (List.suffix_cons '{' rest)
  rw [braces_eq (.of_append written), block?_of_cons rfl, behind]
  cases splitClosing? '{' '}' 0 rest with
  | none => exact ⟨0, rfl⟩
  | some parts => exact ⟨_, rfl⟩

theorem declared_eq (written : source.text = before ++ '{' :: rest) :
    declared source (utf8Length before) =
      .ok (match splitClosing? '{' '}' 0 rest with
        | some (text, _) => (⟨(source.moveTo rest).line, text⟩, true)
        | none => (source.moveTo rest, false)) := by
  obtain ⟨next, found⟩ := block_brace_eq written
  have whole : source.text = (before ++ ['{']) ++ rest := by rw [written, ← List.append_cons]
  have behind := At.of_append whole
  rw [utf8Length_append] at behind
  rw [declared, found, ok_bind]
  cases splitClosing? '{' '}' 0 rest with
  | none =>
    simp only [Option.map_none]
    exact congrArg (Except.map _) behind.passageFrom_eq
  | some parts => rfl

theorem declarationCaveats_eq {line : Option Nat} {name : String} (closed : Bool) :
    declarationCaveats ⟨line, before ++ '{' :: rest⟩ (utf8Length before + 1) name closed =
      .ok (if closed then [] else (Problem.unclosedDeclaration name).caveats
        ((⟨line, before ++ '{' :: rest⟩ : Passage).moveTo rest).line) := by
  have place : At ⟨line, before ++ '{' :: rest⟩ (utf8Length before) _ := .of_append rfl
  have sameLine : ((⟨line, before ++ '{' :: rest⟩ : Passage).moveTo ('{' :: rest)).line =
      ((⟨line, before ++ '{' :: rest⟩ : Passage).moveTo rest).line := by
    rw [moveTo_append, moveTo_append_cons, lineFeeds_append]
    rfl
  rw [declarationCaveats]
  cases closed with
  | true => rfl
  | false =>
    simp only [Bool.false_eq_true, if_false, subtract_eq (Nat.le_add_left 1 _),
      Nat.add_sub_cancel, ok_bind, place.passageFrom_eq, sameLine]

theorem bodyPassage_eq {inner : Passage} {marked : List Char} (suffix : marked <:+ inner.text) :
    bodyPassage inner marked = .ok (bodyPassage? inner marked) := by
  obtain ⟨front, whole⟩ := suffix
  have place := At.of_append whole.symm
  have count : matchLength inner.text marked = utf8Length front := by
    rw [← whole, matchLength_append]
  have written := place.textFrom_eq
  rw [text_moveTo] at written
  simp only [bodyPassage, count, written, ok_bind, bodyPassage?, Option.bind_eq_bind]
  cases split : splitFirst? '{' marked with
  | none => rfl
  | some parts =>
    obtain ⟨words, rest⟩ := parts
    have shape : inner.text = (front ++ words) ++ '{' :: rest := by
      rw [List.append_assoc, (append_of_splitFirst? split).1, whole]
    have toBrace : Leads (inner.moveTo marked) ((inner.moveTo marked).moveTo ('{' :: rest)) :=
      .moveTo ⟨words, (append_of_splitFirst? split).1⟩
    have moved := place.advance_eq toBrace
    rw [distance_moveTo (append_of_splitFirst? split).1.symm, ← utf8Length_append] at moved
    obtain ⟨next, found⟩ := block_brace_eq shape
    simp only [moved, ok_bind, found, Option.bind_some]
    cases splitClosing? '{' '}' 0 rest with
    | none => rfl
    | some parts => rfl

/-- The expression of a body starts between two characters. -/
theorem expressionStart_eq (body : Passage) :
    expressionStart body = .ok (body.distance body.expressionStart) ∧
      Leads body body.expressionStart := by
  have toStart : Leads body body.skipBlanks := leads_skipWhile isAsciiBlank body
  have place := (At.start body).further toStart
  rw [Nat.zero_add] at place
  have blanks := skipBlanks_eq (At.start body)
  rw [Nat.zero_add] at blanks
  rw [expressionStart, Passage.expressionStart]
  simp only [blanks, place.textFrom_eq, ok_bind, startsWith_eq_isSome]
  cases word : dropStart? "return".toList body.skipBlanks.text with
  | none => exact ⟨rfl, toStart⟩
  | some rest =>
    have whole := append_of_dropStart? word
    have toRest : Leads body.skipBlanks (body.skipBlanks.moveTo rest) := .moveTo ⟨_, whole⟩
    have far : body.skipBlanks.distance (body.skipBlanks.moveTo rest) = 6 :=
      distance_moveTo whole.symm
    have behind : textFrom body.skipBlanks.text 6 = .ok rest := by
      rw [← whole]
      exact textFrom_append "return".toList rest
    have moved := place.advance_eq toRest
    rw [far] at moved
    simp only [Option.isSome_some, if_true, behind, ok_bind]
    cases rest with
    | nil => exact ⟨rfl, toStart⟩
    | cons c rest =>
      by_cases blank : isBlank c = true
      · simp only [List.head?_cons, Option.any_some, blank, if_true, moved,
          distance_trans toStart toRest, far]
        exact ⟨trivial, toStart.trans toRest⟩
      · simp only [List.head?_cons, Option.any_some, blank]
        exact ⟨rfl, toStart⟩

end Bodies

/-- The declaration whose words are found is read at its brace. -/
theorem exists_declaration {source : List Char} {header : Header}
    (isHeader : findHeader? 0 false source = some header) :
    ∃ before declaration, source = before ++ '{' :: header.rest ∧
      declaration? ⟨some 1, source⟩ = some declaration ∧ declaration.name = header.name ∧
        declaration.inner.line = ((⟨some 1, source⟩ : Passage).moveTo header.rest).line ∧
          declared ⟨some 1, source⟩ (utf8Length before) =
            .ok (declaration.inner, declaration.closed) := by
  obtain ⟨before, written, -⟩ := findHeader?_eq_some isHeader
  have whole : (⟨some 1, source⟩ : Passage).text = before ++ '{' :: header.rest := written
  have read := declared_eq whole
  rw [declaration?, isHeader, Option.map_some]
  refine ⟨before, _, written, rfl, ?_⟩
  rw [read]
  cases splitClosing? '{' '}' 0 header.rest with
  | none => exact ⟨rfl, rfl, rfl⟩
  | some parts => exact ⟨rfl, rfl, rfl⟩

theorem readBody_eq (source : List Char) :
    Cursor.readBody source = .ok (Passage.readBody source) := by
  rw [Cursor.readBody, Passage.readBody]
  dsimp only
  cases isHeader : findHeader? 0 false source with
  | none =>
    rw [declaration?, isHeader]
    rfl
  | some header =>
    obtain ⟨before, declaration, written, isDeclaration, name, line, read⟩ :=
      exists_declaration isHeader
    have count : matchLength source header.rest = utf8Length before + 1 := by
      rw [written, List.append_cons, matchLength_append, utf8Length_append]
      rfl
    simp only [count, subtract_eq (Nat.le_add_left 1 _), Nat.add_sub_cancel, ok_bind, read,
      isDeclaration, ← name]
    cases isMarked : findBodyMarker? false declaration.inner.text with
    | none => rfl
    | some marked =>
      simp only [bodyPassage_eq (suffix_of_findBodyMarker? isMarked), ok_bind]
      cases isBody : bodyPassage? declaration.inner marked with
      | none => rfl
      | some body =>
        obtain ⟨start, leads⟩ := expressionStart_eq body
        have place := (At.start body).further leads
        rw [Nat.zero_add] at place
        have caveats : declarationCaveats ⟨some 1, source⟩ (utf8Length before + 1)
            declaration.name declaration.closed = .ok declaration.caveats := by
          rw [Declaration.caveats, line, written]
          exact declarationCaveats_eq declaration.closed
        simp only [caveats, start, place.passageFrom_eq, expression_eq place, ok_bind]
        rfl

theorem nestsShorter (whole : Passage) : NestsShorter whole := by
  intro cursor isPlace found next scanned text member
  obtain ⟨passage, place⟩ := At.exists_of_isPlace isPlace
  rw [scan_eq place] at scanned
  obtain ⟨⟨found', rest⟩, isScan, same⟩ := Option.map_eq_some_iff.mp (Except.ok.inj scanned)
  cases same
  exact Nat.lt_of_lt_of_le ((fitsIn_of_scan? isScan).utf8Length_lt member)
    place.leads.utf8Length_le

/-- Scanning a source by its bytes comes to an end, and nothing goes wrong on the way: no text is
taken from a place that is past the end or inside a character, and no place is before the start.  Each
round of the loops over statements, closures and links gets to a later place between two characters,
if it finds anything, and whatever is nested in an expression is shorter than the text around it. -/
theorem readBody_total (source : List Char) :
    Cursor.readBody source = .ok (Passage.readBody source) ∧
      ∀ whole : Passage, Progresses whole (statement whole) ∧
        Progresses whole (labeledBlock whole) ∧ Progresses whole (link whole) ∧
          NestsShorter whole := by
  refine ⟨readBody_eq source, fun whole ↦ ⟨?_, ?_, ?_, nestsShorter whole⟩⟩
  · exact progresses_of_advances advances_statement? fun _ _ place ↦ statement_eq place
  · exact progresses_of_advances advances_labeledBlock? fun _ _ place ↦ labeledBlock_eq place
  · exact progresses_of_advances advances_link? fun _ _ place ↦ link_eq place

end Cursor

end ViewPreview.Passage
