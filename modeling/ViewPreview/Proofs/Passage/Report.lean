import ViewPreview.Proofs.Passage.Line
import ViewPreview.Proofs.Passage.Spot

/-!
# Spots of Reports

Everything that is reported of a scanned source has a spot in it, and it has the line of that spot:
an unclosed declaration the line of its brace, a skipped statement the line of its first character,
and a modifier the line of its dot.
-/

namespace ViewPreview.Passage

open ViewPreview.Text ViewPreview.Call
open ViewPreview.Outline (Expression Problem Caveat)

/-- A closure that is read in the call of an expression is one of its blocks. -/
theorem Scan.exists_reads {scan : Scan} {closure : Outline.Closure Expression}
    {made : Kind × Outline.Call Expression} (found : made ∈ scan.outline.constructor?.toList)
    (read : closure ∈ Outline.readClosures made.1 made.2) :
    ∃ block ∈ scan.blocks, closure = block.outline ∧ scan.Reads block := by
  have isCall := Outline.call_of_constructor? found
  have closures : made.2.closures = scan.blocks.map Block.outline := by
    rw [outline_eq] at isCall
    change scan.call = some made.2 at isCall
    unfold Scan.call at isCall
    split at isCall
    · rw [← Option.some.inj isCall]
    · cases isCall
  have inClosures := (List.mem_filter.mp read).1
  rw [closures] at inClosures
  obtain ⟨block, inBlocks, rfl⟩ := List.mem_map.mp inClosures
  exact ⟨block, inBlocks, rfl, made, Option.mem_toList.mp found, read⟩

section Parts

variable {outer : Spot} {scan : Scan} {after called : Passage}

/-- A block whose closure is read has its spot. -/
theorem exists_opens_of_mem_blocks (scanned : outer.passage.scan? = some (scan, after))
    (behind : outer.passage.afterArguments? = some called) {block : Block}
    (member : block ∈ called.blocks.1) (reads : scan.Reads block) :
    ∃ rest, Opens outer (outer.inside block.inner rest) := by
  rcases List.mem_append.mp member with first | other
  · obtain ⟨inner, rest, opened, rfl⟩ := exists_of_mem_unlabeledBlock first
    exact ⟨rest, .unlabeled scanned behind opened reads⟩
  · obtain ⟨start, rest, round⟩ := exists_round_of_mem_repeatStep advances_labeledBlock? other
    exact ⟨rest, .labeled scanned behind round reads⟩

/-- The closure of a link has its spot if the link takes a view. -/
theorem exists_opens_of_mem_links (scanned : outer.passage.scan? = some (scan, after))
    (behind : outer.passage.afterArguments? = some called) {link : ChainLink}
    (member : link ∈ (repeatStep link? called.blocks.2).1)
    {closure : Outline.Closure Expression} (read : closure ∈ link.outline.readClosures) :
    ∃ inner rest, Opens outer (outer.inside inner rest) ∧
      closure = closureExpression none inner := by
  obtain ⟨start, rest, round⟩ := exists_round_of_mem_repeatStep advances_link? member
  cases link with
  | unread line name => cases read
  | call line name arguments inner =>
    change closure ∈ if closureTakesView name then inner.toList.map (closureExpression none)
      else [] at read
    split at read
    · next reads =>
      obtain ⟨passage, closed, rfl⟩ := List.mem_map.mp read
      obtain rfl := Option.mem_toList.mp closed
      exact ⟨passage, rest, .modifier scanned behind round reads, rfl⟩
    · cases read

/-- A closure that is read in a scanned expression has its spot. -/
theorem exists_opens (scanned : outer.passage.scan? = some (scan, after))
    {closure : Outline.Closure Expression} (member : closure ∈ scan.outline.readClosures) :
    ∃ inner label, Opens outer inner ∧ closure = closureExpression label inner.passage := by
  obtain ⟨called, behind, blocks, links, -⟩ := exists_of_scan? scanned
  rcases List.mem_append.mp member with ofCall | ofLinks
  · obtain ⟨made, found, read⟩ := List.mem_flatMap.mp ofCall
    obtain ⟨block, inBlocks, rfl, reads⟩ := Scan.exists_reads found read
    rw [blocks] at inBlocks
    obtain ⟨rest, opens⟩ := exists_opens_of_mem_blocks scanned behind inBlocks reads
    exact ⟨_, block.label, opens, rfl⟩
  · obtain ⟨link, inLinks, read⟩ := List.mem_flatMap.mp ofLinks
    rw [outline_eq] at inLinks
    obtain ⟨chain, inChain, rfl⟩ := List.mem_map.mp inLinks
    rw [links] at inChain
    obtain ⟨inner, rest, opens, rfl⟩ := exists_opens_of_mem_links scanned behind inChain read
    exact ⟨_, none, opens, rfl⟩

/-- A link of a scanned expression has its spot, and its line there. -/
theorem exists_links (scanned : outer.passage.scan? = some (scan, after))
    {link : Outline.Link Expression} (member : link ∈ scan.outline.links) :
    ∃ dot chain, Links outer dot chain ∧ link = chain.outline ∧
      link.line? = dot.passage.line := by
  obtain ⟨called, behind, -, links, -⟩ := exists_of_scan? scanned
  rw [outline_eq] at member
  obtain ⟨chain, inChain, rfl⟩ := List.mem_map.mp member
  rw [links] at inChain
  obtain ⟨start, rest, round⟩ := exists_round_of_mem_repeatStep advances_link? inChain
  obtain ⟨text, dot, name, behindName, toName, linked⟩ := exists_behind_of_link? round.moves
  exact ⟨_, chain, .intro scanned behind round, rfl, line_of_linkAfterName? linked⟩

end Parts

/-! ## Reports of expressions -/

variable {source : List Char} {caveat : Caveat}

/-- A caveat of a scanned statement reports that it is skipped, or is one of the view that is scanned
at its start. -/
theorem exists_of_mem_statement {statement : ScannedStatement}
    (isScan : statement.scan = statement.start.scan?.map Prod.fst)
    (member : caveat ∈ (Outline.statementView statement.outline).caveats) :
    (statement.scan = none ∧ caveat.problem = .skippedStatement (snippet statement.start.text) ∧
      caveat.line = statement.start.line) ∨
        ∃ scan rest, statement.start.scan? = some (scan, rest) ∧
          statement.outline.inner? = some scan.outline ∧ caveat ∈ scan.outline.caveats := by
  rcases Outline.exists_of_mem_statementView member with ⟨noView, report⟩ | ⟨inner, found, inside⟩
  · obtain ⟨problem, line, -⟩ := Outline.mem_caveats_iff.mp report
    refine .inl ⟨?_, problem, line⟩
    cases scanned : statement.scan with
    | none => rfl
    | some own =>
      obtain ⟨⟨own, rest⟩, read, rfl⟩ := Option.map_eq_some_iff.mp (isScan.symm.trans scanned)
      obtain ⟨-, -, -, -, -, shown⟩ := exists_of_scan? read
      have hasView : statement.outline.inner? = some own.outline :=
        Option.filter_eq_some_iff.mpr ⟨congrArg (Option.map Scan.outline) scanned, shown⟩
      rw [hasView] at noView
      cases noView
  · obtain ⟨own, isOwn, rfl⟩ :=
      Option.map_eq_some_iff.mp (Option.filter_eq_some_iff.mp found).1
    obtain ⟨⟨own, rest⟩, read, rfl⟩ := Option.map_eq_some_iff.mp (isScan.symm.trans isOwn)
    exact .inr ⟨own, rest, read, found, inside⟩

/-- What is reported of an expression that is read in a source is found at a spot of the source. -/
theorem exists_raises_of_scan? {outer : Spot} (visits : Visits source outer) {scan : Scan}
    {after : Passage} (scanned : outer.passage.scan? = some (scan, after))
    (member : caveat ∈ scan.outline.caveats) :
    ∃ spot, Raises source spot caveat.problem ∧ caveat.line = spot.passage.line := by
  generalize same : scan.outline = expression at member
  induction expression using Outline.Expression.inner_induction generalizing outer scan after with
  | step expression ih =>
    subst same
    have placed := placed_outline (placed_scan scanned)
    rcases Outline.exists_of_mem_caveats member with
      ⟨argument, read, inner, found, inside⟩ | ⟨closure, read, statement, stands, inside⟩ |
        ⟨link, inLinks, problem, own, inside⟩
    -- What is read in an argument has no lines, so it is never reported.
    · rw [Outline.caveats_of_placed_false inner (placed.ofArgument read found)] at inside
      cases inside
    · obtain ⟨spot, label, opens, rfl⟩ := exists_opens scanned read
      obtain ⟨started, isStatement, rfl⟩ := List.mem_map.mp stands
      obtain ⟨-, isScan, -⟩ := exists_of_mem_scannedStatements isStatement
      have inStatements : started.outline ∈ scan.outline.readStatements :=
        List.mem_flatMap.mpr ⟨_, read, stands⟩
      rcases exists_of_mem_statement isScan inside with
        ⟨skipped, problem, line⟩ | ⟨own, rest, found, isInner, deeper⟩
      · rw [problem]
        exact ⟨_, .statement visits opens isStatement skipped, line⟩
      · exact ih own.outline (Outline.mem_inner_of_statement inStatements isInner)
          (.statement visits opens isStatement) found rfl deeper
    · obtain ⟨dot, chain, links, rfl, line⟩ := exists_links scanned inLinks
      obtain ⟨isProblem, sameLine, -⟩ := Outline.mem_caveats_iff.mp inside
      rw [isProblem]
      exact ⟨dot, .modifier visits links own, sameLine.trans line⟩

/-! ## Reports of bodies -/

/-- A declaration is reported at its brace, which is on the line that its inside starts on. -/
theorem exists_raises_of_declaration {declaration : Declaration}
    (isDeclaration : declaration? ⟨some 1, source⟩ = some declaration)
    (member : caveat ∈ declaration.caveats) :
    ∃ spot, Raises source spot caveat.problem ∧ caveat.line = spot.passage.line := by
  have unclosed : declaration.closed = false := by
    rw [Declaration.caveats] at member
    split at member
    · cases member
    · next notClosed => exact Bool.eq_false_iff.mpr notClosed
  rw [Declaration.caveats, unclosed] at member
  obtain ⟨problem, line, -⟩ := Outline.mem_caveats_iff.mp member
  obtain ⟨header, found, -⟩ := Option.map_eq_some_iff.mp isDeclaration
  obtain ⟨before, written, -⟩ := findHeader?_eq_some found
  obtain ⟨-, inside⟩ := declaration_of_header found isDeclaration
  rw [problem]
  refine ⟨_, .declaration found isDeclaration unclosed, ?_⟩
  subst written
  change _ = ((⟨some 1, before ++ '{' :: header.rest⟩ : Passage).moveTo ('{' :: header.rest)).line
  rw [line, inside, moveTo_append_cons, moveTo_append, lineFeeds_append]
  rfl

/-- Everything that is reported of what is read in a source is found at a spot of the source. -/
theorem exists_raises {declaration : Declaration} {body : Passage}
    (found : body? source = some (declaration, body)) {scan : Scan} {after : Passage}
    (scanned : body.expressionStart.scan? = some (scan, after))
    (member : caveat ∈ declaration.caveats ++ scan.outline.caveats) :
    ∃ spot, Raises source spot caveat.problem ∧ caveat.line = spot.passage.line := by
  rcases List.mem_append.mp member with ofDeclaration | ofScan
  · simp only [body?, Option.bind_eq_bind, Option.bind_eq_some_iff] at found
    obtain ⟨declaration', isDeclaration, marked, -, body', -, same⟩ := found
    cases same
    exact exists_raises_of_declaration isDeclaration ofDeclaration
  · obtain ⟨spot, isBody, rfl⟩ := exists_bodySpot found
    exact exists_raises_of_scan? (.body isBody) scanned ofScan

end ViewPreview.Passage
