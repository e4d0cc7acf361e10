import ViewPreview.Proofs.Outline.Skipped
import ViewPreview.Proofs.Passage.Insertion
import ViewPreview.Proofs.Passage.Outline
import ViewPreview.Proofs.Passage.Progress

/-!
# Spots of Passages

A spot is a passage together with everything that stands before it in a source.  Where a reader goes
from a passage to a later one, or into a block, the text that it passes over is put behind what
stood before.  In this way every place that an expression is scanned at, and every place that
something is reported of, has its spot.
-/

namespace ViewPreview.Passage

open ViewPreview.Text ViewPreview.Call
open ViewPreview.Outline (Expression Problem)

/-- A passage and the text before it in a source. -/
structure Spot where
  before : List Char
  passage : Passage

namespace Spot

/-- A whole source. -/
def whole (source : List Char) : Spot :=
  ⟨[], ⟨some 1, source⟩⟩

/-- The spot of a passage that starts where no more than `rest` is left of the text of a spot. -/
def goTo (spot : Spot) (rest : List Char) (passage : Passage) : Spot :=
  ⟨spot.before ++ spot.passage.text.take (spot.passage.text.length - rest.length), passage⟩

/-- The spot of a passage on the rest of the text of a spot. -/
def moveTo (spot : Spot) (rest : Passage) : Spot :=
  spot.goTo rest.text rest

/-- The spot of the inside of a block in braces, given what follows the block. -/
def inside (spot : Spot) (inner rest : Passage) : Spot :=
  spot.goTo (inner.text ++ '}' :: rest.text) inner

end Spot

/-! ## Closures and links of an expression -/

/-- Whether the closure that a block stands for is read for the views in it. -/
def Scan.Reads (scan : Scan) (block : Block) : Prop :=
  ∃ made ∈ scan.outline.constructor?, block.outline ∈ Outline.readClosures made.1 made.2

/-- Whether the expression scanned at one spot has the inside of another one as a closure that is
read: one directly behind its call, one behind its label, or one of a modifier. -/
inductive Opens (outer : Spot) : (closure : Spot) → Prop
  | unlabeled {scan : Scan} {after called inner rest : Passage}
      (scanned : outer.passage.scan? = some (scan, after))
      (behind : outer.passage.afterArguments? = some called)
      (found : called.trailingBlock? = some (inner, rest)) (reads : scan.Reads ⟨none, inner⟩) :
      Opens outer (outer.inside inner rest)
  | labeled {scan : Scan} {after called start rest : Passage} {block : Block}
      (scanned : outer.passage.scan? = some (scan, after))
      (behind : outer.passage.afterArguments? = some called)
      (round : Round labeledBlock? called.unlabeledBlock.2 start block rest)
      (reads : scan.Reads block) :
      Opens outer (outer.inside block.inner rest)
  | modifier {scan : Scan} {after called start inner rest : Passage} {line : Option Nat}
      {name : String} {arguments : List Char}
      (scanned : outer.passage.scan? = some (scan, after))
      (behind : outer.passage.afterArguments? = some called)
      (round : Round link? called.blocks.2 start (.call line name arguments (some inner)) rest)
      (reads : closureTakesView name = true) :
      Opens outer (outer.inside inner rest)

/-- Whether the expression scanned at a spot has a link whose dot is at another one. -/
inductive Links (outer : Spot) : (dot : Spot) → (link : ChainLink) → Prop
  | intro {scan : Scan} {after called start rest : Passage} {link : ChainLink}
      (scanned : outer.passage.scan? = some (scan, after))
      (behind : outer.passage.afterArguments? = some called)
      (round : Round link? called.blocks.2 start link rest) :
      Links outer (outer.moveTo start.skipBlanks) link

/-! ## Spots in a source -/

/-- The spot inside the braces of the declaration that a source is read from. -/
def declarationSpot? (source : List Char) : Option Spot := do
  let header ← findHeader? 0 false source
  let declaration ← declaration? ⟨some 1, source⟩
  some ((Spot.whole source).goTo header.rest declaration.inner)

/-- The spot inside the braces of the body that a source is read from. -/
def bodySpot? (source : List Char) : Option Spot := do
  let outer ← declarationSpot? source
  let marked ← findBodyMarker? false outer.passage.text
  let (_, rest) ← splitFirst? '{' marked
  let body ← bodyPassage? outer.passage marked
  some (outer.goTo rest body)

/-- Whether an expression is looked for at a spot when a source is read: where the expression of the
body starts, and where a statement starts in a closure that is read. -/
inductive Visits (source : List Char) : Spot → Prop
  | body {body : Spot} (found : bodySpot? source = some body) :
      Visits source (body.moveTo body.passage.expressionStart)
  | statement {outer closure : Spot} {statement : ScannedStatement} (visits : Visits source outer)
      (opens : Opens outer closure)
      (member : statement ∈ closure.passage.splitParameter.2.scannedStatements) :
      Visits source (closure.moveTo statement.start)

/-- Whether a problem is found at a spot when a source is read: an unclosed declaration at its brace,
a statement that is skipped at its first character, and a modifier that is not read, or whose
arguments are wrong, at its dot. -/
inductive Raises (source : List Char) : Spot → Problem → Prop
  | declaration {header : Header} {declaration : Declaration}
      (found : findHeader? 0 false source = some header)
      (read : declaration? ⟨some 1, source⟩ = some declaration)
      (unclosed : declaration.closed = false) :
      Raises source
        ((Spot.whole source).moveTo ((⟨some 1, source⟩ : Passage).moveTo ('{' :: header.rest)))
        (.unclosedDeclaration declaration.name)
  | statement {outer closure : Spot} {statement : ScannedStatement} (visits : Visits source outer)
      (opens : Opens outer closure)
      (member : statement ∈ closure.passage.splitParameter.2.scannedStatements)
      (skipped : statement.scan = none) :
      Raises source (closure.moveTo statement.start)
        (.skippedStatement (snippet statement.start.text))
  | modifier {outer dot : Spot} {link : ChainLink} {problem : Problem}
      (visits : Visits source outer) (links : Links outer dot link)
      (found : problem ∈ link.outline.problems) :
      Raises source dot problem

/-! ## What stands at a spot -/

/-- Whether a spot is one of a source: its passage stands in the source behind the text before it,
and has the line of that place. -/
structure Spot.LiesIn (source : List Char) (spot : Spot) : Prop where
  slice : ∃ after, source = spot.before ++ spot.passage.text ++ after
  line : spot.passage.line = some (1 + lineFeeds spot.before)

section LiesIn

variable {source : List Char} {spot : Spot} {start inner rest : Passage}

theorem liesIn_whole (source : List Char) : (Spot.whole source).LiesIn source where
  slice := ⟨[], (List.append_nil source).symm⟩
  line := rfl

/-- A passage that begins where a later place of a spot is lies there. -/
theorem Spot.LiesIn.goTo (lies : spot.LiesIn source) (leads : Leads spot.passage start)
    (begins : inner.text <+: start.text) (sameLine : inner.line = start.line) :
    (spot.goTo start.text inner).LiesIn source := by
  obtain ⟨passed, whole, line⟩ := leads.exists_append
  obtain ⟨after, slice⟩ := lies.slice
  obtain ⟨back, shape⟩ := begins
  have taken : spot.passage.text.take (spot.passage.text.length - start.text.length) = passed := by
    rw [whole, List.length_append, Nat.add_sub_cancel, List.take_left]
  constructor
  · refine ⟨back ++ after, ?_⟩
    rw [slice, Spot.goTo, taken, whole, ← shape]
    simp only [List.append_assoc]
  · rw [Spot.goTo, taken, sameLine, line, lies.line, lineFeeds_append, ← Nat.add_assoc]
    rfl

theorem Spot.LiesIn.moveTo (lies : spot.LiesIn source) (leads : Leads spot.passage rest) :
    (spot.moveTo rest).LiesIn source :=
  lies.goTo leads List.prefix_rfl rfl

theorem Spot.LiesIn.inside (lies : spot.LiesIn source) (leads : Leads spot.passage start)
    (block : start.block? '{' '}' = some (inner, rest)) :
    (spot.inside inner rest).LiesIn source := by
  obtain ⟨-, content, toContent, line, between, -⟩ := leads_of_block? block
  rw [Spot.inside, ← between]
  refine lies.goTo (leads.trans toContent) ?_ line.symm
  rw [between]
  exact List.prefix_append inner.text _

end LiesIn

/-! ## Every spot lies in its source -/

section Spots

variable {source : List Char} {outer closure dot spot : Spot}

theorem Opens.liesIn (opens : Opens outer closure) (lies : outer.LiesIn source) :
    closure.LiesIn source := by
  cases opens with
  | unlabeled scanned behind found reads =>
    exact lies.inside ((leads_of_afterArguments? behind).trans (leads_skipWhile isInlineBlank _))
      found
  | labeled scanned behind round reads =>
    obtain ⟨brace, toBrace, opened⟩ := exists_of_labeledBlock? round.moves
    exact lies.inside ((((leads_of_afterArguments? behind).trans (leads_unlabeledBlock _)).trans
      (round.leads advances_labeledBlock?)).trans toBrace) opened
  | modifier scanned behind round reads =>
    obtain ⟨text, dot, name, behindName, toName, linked⟩ := exists_behind_of_link? round.moves
    obtain ⟨brace, toBrace, opened⟩ := exists_of_linkAfterName? linked
    exact lies.inside ((((leads_of_afterArguments? behind).trans (leads_blocks _)).trans
      (round.leads advances_link?)).trans (toName.trans toBrace)) opened

theorem Links.liesIn {link : ChainLink} (links : Links outer dot link)
    (lies : outer.LiesIn source) : dot.LiesIn source := by
  obtain ⟨scanned, behind, round⟩ := links
  exact lies.moveTo ((((leads_of_afterArguments? behind).trans (leads_blocks _)).trans
    (round.leads advances_link?)).trans (leads_skipWhile isAsciiBlank _))

theorem liesIn_statement (lies : closure.LiesIn source) {statement : ScannedStatement}
    (member : statement ∈ closure.passage.splitParameter.2.scannedStatements) :
    (closure.moveTo statement.start).LiesIn source :=
  lies.moveTo ((leads_splitParameter closure.passage).trans
    (exists_of_mem_scannedStatements member).1)

/-- The inside of a declaration starts behind its brace. -/
theorem declaration_of_header {header : Header} {declaration : Declaration}
    (found : findHeader? 0 false source = some header)
    (read : declaration? ⟨some 1, source⟩ = some declaration) :
    declaration.inner.text <+: header.rest ∧
      declaration.inner.line = ((⟨some 1, source⟩ : Passage).moveTo header.rest).line := by
  rw [declaration?, found, Option.map_some] at read
  obtain rfl := Option.some.inj read
  dsimp only
  cases split : splitClosing? '{' '}' 0 header.rest with
  | none => exact ⟨List.prefix_rfl, rfl⟩
  | some parts =>
    refine ⟨?_, rfl⟩
    rw [append_of_splitClosing? split]
    exact List.prefix_append parts.1 _

theorem liesIn_of_declarationSpot? (found : declarationSpot? source = some spot) :
    spot.LiesIn source := by
  simp only [declarationSpot?, Option.bind_eq_bind, Option.bind_eq_some_iff] at found
  obtain ⟨header, isHeader, declaration, isDeclaration, same⟩ := found
  cases same
  obtain ⟨before, written, -⟩ := findHeader?_eq_some isHeader
  obtain ⟨begins, line⟩ := declaration_of_header isHeader isDeclaration
  have toRest : Leads (Spot.whole source).passage
      ((⟨some 1, source⟩ : Passage).moveTo header.rest) :=
    .moveTo ⟨before ++ ['{'], by rw [← List.append_cons, ← written]; rfl⟩
  exact (liesIn_whole source).goTo toRest begins line

theorem liesIn_of_bodySpot? (found : bodySpot? source = some spot) : spot.LiesIn source := by
  simp only [bodySpot?, Option.bind_eq_bind, Option.bind_eq_some_iff] at found
  obtain ⟨outer, isOuter, marked, isMarked, ⟨words, rest⟩, opens, body, isBody, same⟩ := found
  cases same
  obtain ⟨words', rest', after, shape, absent, closed, -, line⟩ := exists_of_bodyPassage? isBody
  rw [shape, splitFirst?_append absent] at opens
  cases opens
  have toRest : rest <:+ marked := ⟨words ++ ['{'], by rw [← List.append_cons, ← shape]⟩
  have leads : Leads outer.passage (outer.passage.moveTo rest) :=
    .moveTo (toRest.trans (suffix_of_findBodyMarker? isMarked))
  refine (liesIn_of_declarationSpot? isOuter).goTo leads ?_ line
  rw [text_moveTo, append_of_splitClosing? closed]
  exact List.prefix_append body.text _

/-- Every spot at which an expression is looked for lies in the source, so what is scanned there is
the source from there on. -/
theorem Visits.liesIn (visits : Visits source spot) : spot.LiesIn source := by
  induction visits with
  | body found => exact (liesIn_of_bodySpot? found).moveTo (leads_expressionStart _)
  | statement _ opens member ih => exact liesIn_statement (opens.liesIn ih) member

theorem Raises.liesIn {problem : Problem} (raises : Raises source spot problem) :
    spot.LiesIn source := by
  cases raises with
  | declaration found read unclosed =>
    obtain ⟨before, written, -⟩ := findHeader?_eq_some found
    exact (liesIn_whole source).moveTo (.moveTo ⟨before, written.symm⟩)
  | statement visits opens member skipped => exact liesIn_statement (opens.liesIn visits.liesIn) member
  | modifier visits links found => exact links.liesIn visits.liesIn

/-- A problem is found where the text begins that it is reported of. -/
theorem Raises.begins {problem : Problem} (raises : Raises source spot problem) :
    ∃ c text, spot.passage.text = c :: text ∧ problem.BeginsWith c := by
  cases raises with
  | declaration found read unclosed => exact ⟨'{', _, rfl, rfl⟩
  | statement visits opens member skipped =>
    obtain ⟨-, -, c, text, written, visible⟩ := exists_of_mem_scannedStatements member
    exact ⟨c, text, written, visible⟩
  | modifier visits links found =>
    obtain ⟨scanned, behind, round⟩ := links
    obtain ⟨text, dot, -⟩ := exists_behind_of_link? round.moves
    exact ⟨'.', text, dot, Outline.beginsWith_of_mem_problems found⟩

/-- The body that a source is read from has its spot. -/
theorem exists_bodySpot {declaration : Declaration} {body : Passage}
    (found : body? source = some (declaration, body)) :
    ∃ spot, bodySpot? source = some spot ∧ spot.passage = body := by
  simp only [body?, Option.bind_eq_bind, Option.bind_eq_some_iff] at found
  obtain ⟨declaration', isDeclaration, marked, isMarked, body', isBody, same⟩ := found
  cases same
  obtain ⟨header, isHeader, -⟩ := Option.map_eq_some_iff.mp isDeclaration
  obtain ⟨words, rest, after, shape, absent, -, -, -⟩ := exists_of_bodyPassage? isBody
  have opens : splitFirst? '{' marked = some (words, rest) := by
    rw [shape]
    exact splitFirst?_append absent
  refine ⟨((Spot.whole source).goTo header.rest declaration.inner).goTo rest body, ?_, rfl⟩
  have isMarked' : findBodyMarker? false
      ((Spot.whole source).goTo header.rest declaration.inner).passage.text = some marked := isMarked
  have isBody' : bodyPassage? ((Spot.whole source).goTo header.rest declaration.inner).passage
      marked = some body := isBody
  simp only [bodySpot?, declarationSpot?, isHeader, isDeclaration, Option.bind_eq_bind,
    Option.bind_some, isMarked', opens, isBody']

end Spots

end ViewPreview.Passage
