import ViewPreview.Proofs.Agreement.Outline
import ViewPreview.Proofs.Canonical.Lines

/-!
# Scanning Simple Views

The text of a simple view is scanned as its view.  No argument of a simple view goes on over the end
of a line, so a modifier is reported on the line on which the call before it ends.
-/

namespace ViewPreview.Agreement

open ViewPreview.Text ViewPreview.Call ViewPreview.Number ViewPreview.Passage ViewPreview.Outline
open ViewPreview.Canonical

/-! ## Arguments -/

theorem wholeScan?_eq_none {c : Char} {rest : List Char} (trimmed : Trimmed (c :: rest))
    (noName : isIdentifierStart c = false) : wholeScan? (c :: rest) = none := by
  have noScan : scan? ⟨none, c :: rest⟩ = none := by
    rw [scan?, splitIdentifier?, noName]
    rfl
  rw [wholeScan?, trimmed.trim_eq, noScan]

/-- A name that is not called is scanned if it is that of a view. -/
theorem scan?_name (name : Identifier) {tail : List Char} (stops : Stops isIdentifierPart tail)
    (noParenthesis : tail.head? ≠ some '(') (noBlock : NoBlock tail)
    (noLabeledBlock : NoLabeledBlock tail) (line : Option Nat) :
    scan? ⟨line, name.chars ++ tail⟩ =
      if namesView name.string false then
        let chain := repeatStep link? ((⟨line, name.chars ++ tail⟩ : Passage).moveTo tail)
        some (⟨name.string, none, [], chain.1⟩, chain.2)
      else none := by
  have split := name.splitIdentifier?_append stops
  have uncalled := @callArguments?_uncalled ((⟨line, name.chars ++ tail⟩ : Passage).moveTo tail)
    noParenthesis
  have noBlocks := @blocks_eq_nil ((⟨line, name.chars ++ tail⟩ : Passage).moveTo tail)
    noBlock noLabeledBlock
  rw [scan?, split]
  simp only [Option.bind_eq_bind, Option.bind_some, uncalled, noBlocks]
  rfl

/-- A path is scanned if it is the name of a view alone. -/
theorem wholeScan?_pathText (base : Identifier) (members : List Identifier)
    (noView : members ≠ [] → namesView base.string false = false) :
    wholeScan? (pathText base members) =
      if namesView base.string false then some ⟨base.string, none, [], []⟩ else none := by
  rw [wholeScan?, (isValue_pathText base members).trimmed.trim_eq, pathText]
  cases members with
  | nil =>
    have noParenthesis : ([] : List Char).head? ≠ some '(' := by rintro ⟨⟩
    have noBlock : NoBlock [] := by rintro ⟨⟩
    have noLabeledBlock : NoLabeledBlock [] := rfl
    rw [List.flatMap_nil, scan?_name base (stops_nil _) noParenthesis noBlock noLabeledBlock]
    cases namesView base.string false with
    | false => rfl
    | true =>
      have noLink : link? ((⟨none, base.chars ++ []⟩ : Passage).moveTo []) = none := rfl
      simp only [if_true, repeatStep_eq_nil noLink]
      rfl
  | cons member members =>
    obtain ⟨others, shape⟩ : ∃ others, (member :: members).flatMap caseText = '.' :: others :=
      ⟨_, rfl⟩
    have noParenthesis : ('.' :: others).head? ≠ some '(' :=
      fun same ↦ absurd (Option.some.inj same) (by decide)
    have noBlock : NoBlock ('.' :: others) :=
      fun brace ↦ absurd (Option.some.inj brace) (by decide)
    have noLabeledBlock : NoLabeledBlock ('.' :: others) := rfl
    rw [shape, scan?_name base (stops_cons.mpr (by decide)) noParenthesis noBlock noLabeledBlock,
      noView (List.cons_ne_nil _ _)]
    rfl

/-- The expression that is scanned in a value stands for its view. -/
theorem optionalView?_wholeScan? (atom : Atom) :
    optionalView? ((wholeScan? atom.chars).map Scan.outline) =
      atom.view?.map fun view ↦ ⟨view, []⟩ := by
  have noScan {c : Char} {rest : List Char} (isValue : IsValue (c :: rest))
      (noName : isIdentifierStart c = false) :
      optionalView? ((wholeScan? (c :: rest)).map Scan.outline) = none := by
    rw [wholeScan?_eq_none isValue.trimmed noName]
    rfl
  have numeric {c : Char} {rest : List Char} (isValue : IsValue (c :: rest))
      (first : c = '-' ∨ isAsciiDigit c = true) :
      optionalView? ((wholeScan? (c :: rest)).map Scan.outline) = none :=
    noScan isValue (not_isIdentifierStart_of_numeric first)
  cases atom with
  | text content => exact noScan content.isValue_quoted (by decide)
  | numeral value =>
    obtain ⟨c, rest, same, first⟩ := value.text_eq_cons
    have isValue := isValue_numeral value
    show optionalView? ((wholeScan? value.text).map Scan.outline) = none
    rw [same] at isValue ⊢
    exact numeric isValue first
  | range bounds =>
    obtain ⟨c, rest, same, first⟩ := integerChars_eq_cons bounds.start.toInt
    have isValue := isValue_rangeText bounds
    show optionalView? ((wholeScan? (rangeText bounds)).map Scan.outline) = none
    rw [rangeText, same, List.cons_append] at isValue ⊢
    exact numeric isValue first
  | enumCase name => exact noScan (isValue_caseText name) (by decide)
  | caseList names => exact noScan (isValue_caseListText names) (by decide)
  | path base members noView =>
    show optionalView? ((wholeScan? (pathText base members)).map Scan.outline) = _
    rw [wholeScan?_pathText base members noView, Atom.view?]
    split
    · next named =>
      have uncalled : Scan.call ⟨base.string, none, [], []⟩ = none := rfl
      rw [Option.map_some, optionalView?, outline_eq, uncalled, Expression.view?,
        Option.isSome_none, if_pos named, headView, List.map_nil, followLinks]
      rfl
    · rfl

theorem areOperands_argumentExpressions (operands : List Operand) :
    AreOperands (argumentExpressions (argumentsText (operands.map Operand.written))) operands := by
  rw [argumentExpressions, argumentsOf_argumentsText, List.map_map, List.map_map, AreOperands,
    List.forall₂_map_left_iff, List.forall₂_same]
  intro operand _
  exact isOperand_of_expression rfl (optionalView?_wholeScan? operand.atom)

/-! ## Modifiers -/

/-- A modifier as it is written. -/
def Modification.link (modification : Modification) : WrittenLink :=
  ⟨modification.name, modification.operands.map Operand.written⟩

theorem chainText_eq (chain : List Modification) :
    chainText chain = linksText (chain.map Modification.link) := by
  rw [linksText, List.flatMap_map]
  rfl

/-- The modifiers that are scanned in a chain stand on one line. -/
theorem areChain_scannedLinks (line : Nat) (chain : List Modification) :
    List.Forall₂ (IsModification line)
      ((scannedLinks line (chain.map Modification.link)).map ChainLink.outline) chain := by
  induction chain with
  | nil => exact .nil
  | cons modification chain ih =>
    rw [List.map_cons, scannedLinks, Modification.link, lineFeeds_operandsText, Nat.add_zero,
      List.map_cons]
    exact .cons (.call (areOperands_argumentExpressions modification.operands)) ih

/-! ## The texts of views -/

theorem lines_eq (simples : List SimpleView) :
    SimpleView.lines simples = linesText SimpleView.text simples := by
  induction simples with
  | nil => rfl
  | cons simple others ih => rw [SimpleView.lines, linesText, ih]

theorem beginsCall_text (simple : SimpleView) (rest : List Char) :
    BeginsCall (simple.text ++ rest) := by
  cases simple with
  | leaf head chain =>
    rw [SimpleView.text, List.append_assoc]
    exact beginsCall_callText head.name rfl _
  | block head children chain =>
    rw [SimpleView.text, List.append_assoc]
    exact beginsCall_callText _ (Bool.or_true _) _
  | repetition rows row isParameter template chain =>
    rw [SimpleView.text, List.append_assoc]
    exact beginsCall_callText _ rfl _

section Compositional

variable {property : List Char → Prop} (compositional : Compositional property)

include compositional

mutual

theorem compositional_text : (simple : SimpleView) → property simple.text
  | .leaf head chain => by
    rw [SimpleView.text, chainText_eq]
    apply compositional.append _ (compositional.linksText _)
    exact compositional.callText fun _ member ↦ nomatch member
  | .block head children chain => by
    rw [SimpleView.text, chainText_eq]
    apply compositional.append _ (compositional.linksText _)
    apply compositional.callText
    rintro inner ⟨⟩
    exact compositional.cons (by decide) (compositional_lines children)
  | .repetition rows row isParameter template chain => by
    rw [SimpleView.text, chainText_eq]
    apply compositional.append _ (compositional.linksText _)
    apply compositional.callText
    rintro inner ⟨⟩
    apply compositional.append (compositional.parameterText row)
    apply compositional.cons (by decide)
    exact compositional.append (compositional_text template) (compositional.mark _ (by decide))

theorem compositional_lines : (simples : List SimpleView) → property (SimpleView.lines simples)
  | [] => compositional.nil
  | simple :: others => by
    rw [SimpleView.lines]
    exact compositional.append (compositional_text simple)
      (compositional.cons (by decide) (compositional_lines others))

end

end Compositional

theorem isViewText_text (simple : SimpleView) : IsViewText simple.text where
  begins := beginsCall_text simple
  balanced := compositional_text compositional_balanced simple
  commentless := compositional_text compositional_commentless simple

/-! ## Views -/

theorem linesReading_simples (backend : Backend) (simples : List SimpleView) (line : Nat) :
    linesReading SimpleView.text (SimpleView.reading backend) line simples =
      ⟨SimpleView.views simples, SimpleView.allCaveats backend line simples⟩ := by
  induction simples generalizing line with
  | nil => rfl
  | cons simple others ih =>
    rw [linesReading, ih, SimpleView.views, SimpleView.allCaveats]
    rfl

theorem lineFeeds_containerArguments (head : Container) :
    lineFeeds (parenthesesText head.arguments) = 0 := by
  rw [Container.arguments]
  split
  · rfl
  · rw [← map_written_containerOperands, lineFeeds_parentheses]

theorem areOperands_container (head : Container) :
    AreOperands (writtenExpressions head.arguments) (containerOperands head) := by
  rw [writtenExpressions, getD_arguments, ← map_written_containerOperands]
  exact areOperands_argumentExpressions _

theorem readsAs_leaf (head : Leaf) (chain : List Modification) :
    ReadsAs (SimpleView.leaf head chain).text ((SimpleView.leaf head chain).reading .fallback) := by
  rw [SimpleView.text, chainText_eq]
  apply readsAs_call
  · rintro inner ⟨⟩
  · rfl
  · exact namesView_leaf head
  · intro line
    have areOperands := areOperands_argumentExpressions (leafOperands head)
    have feeds : lineFeeds (callText head.name (some head.written) none) = 0 := by
      rw [lineFeeds_callText, ← map_written_leafOperands, lineFeeds_parentheses]
      rfl
    rw [map_written_leafOperands] at areOperands
    rw [feeds, SimpleView.reading, SimpleView.view, SimpleView.caveats]
    exact follow_leaf head areOperands (areChain_scannedLinks line chain)

theorem readsAs_block (head : Container) {children : List SimpleView} (chain : List Modification)
    (each : ∀ simple ∈ children, ReadsAs simple.text (simple.reading .fallback)) :
    ReadsAs (SimpleView.block head children chain).text
      ((SimpleView.block head children chain).reading .fallback) := by
  rw [SimpleView.text, chainText_eq, lines_eq]
  apply readsAs_call
  · rintro inner ⟨⟩
    rw [← lines_eq]
    exact compositional_balanced.cons (by decide)
      (compositional_lines compositional_balanced children)
  · exact Bool.or_true _
  · exact namesView_kindName _ (isContainer_kind head).known
  · intro line
    have shown := statementViews_linesText beginsCall_text each line
    rw [linesReading_simples] at shown
    have feeds : lineFeeds (callText (kindName head.kind) head.arguments
        (some ('\n' :: linesText SimpleView.text children))) =
          1 + lineFeeds (SimpleView.lines children) := by
      rw [lineFeeds_callText, lineFeeds_containerArguments, lineFeeds_closureText,
        lineFeeds_newline, lines_eq, Nat.zero_add, Nat.add_comm]
    rw [feeds, lineFeeds_containerArguments, Nat.add_zero, Option.toList_some, List.map_singleton,
      closureExpression_linesText beginsCall_text, SimpleView.reading, SimpleView.view,
      SimpleView.caveats]
    exact follow_block head (areOperands_container head) shown (areChain_scannedLinks _ chain)

theorem readsAs_repetition (rows : IntegerRange) (row : Identifier)
    (isParameter : row.string ∉ ["for", "in"]) {template : SimpleView} (chain : List Modification)
    (reads : ReadsAs template.text (template.reading .fallback)) :
    ReadsAs (SimpleView.repetition rows row isParameter template chain).text
      ((SimpleView.repetition rows row isParameter template chain).reading .fallback) := by
  have single : template.text ++ ['\n'] = linesText SimpleView.text [template] := rfl
  have oneLine : lineFeeds (parenthesesText (some (rangeArguments rows))) = 0 :=
    lineFeeds_parentheses [⟨none, .range rows⟩]
  rw [SimpleView.text, chainText_eq, single]
  apply readsAs_call
  · rintro inner ⟨⟩
    rw [← lines_eq]
    apply compositional_balanced.append (compositional_balanced.parameterText row)
    exact compositional_balanced.cons (by decide)
      (compositional_lines compositional_balanced [template])
  · rfl
  · exact namesView_kindName .forEach (by decide)
  · intro line
    have shown := statementViews_linesText beginsCall_text (List.forall_mem_singleton.mpr reads)
      line
    rw [linesReading_simples, SimpleView.views, SimpleView.views, SimpleView.allCaveats,
      SimpleView.allCaveats, List.append_nil] at shown
    have feeds : lineFeeds (callText (kindName .forEach) (some (rangeArguments rows))
        (some (parameterText row ++ '\n' :: linesText SimpleView.text [template]))) =
          2 + lineFeeds template.text := by
      rw [lineFeeds_callText, oneLine, lineFeeds_closureText, lineFeeds_append,
        lineFeeds_eq_zero (noBreak_parameterText row), lineFeeds_newline, ← single,
        lineFeeds_append, lineFeeds_newline, lineFeeds_eq_zero List.not_mem_nil]
      omega
    rw [feeds, oneLine, Nat.add_zero, Option.toList_some, List.map_singleton,
      closureExpression_parameterText, SimpleView.reading, SimpleView.view, SimpleView.caveats]
    exact follow_repetition rows row
      (areOperands_argumentExpressions [⟨none, .range rows⟩]) shown (areChain_scannedLinks _ chain)

mutual

/-- A simple view is scanned as its view, and its modifiers are reported where they stand. -/
theorem readsAs : (simple : SimpleView) → ReadsAs simple.text (simple.reading .fallback)
  | .leaf head chain => readsAs_leaf head chain
  | .block head children chain => readsAs_block head chain (readsAs_all children)
  | .repetition rows row isParameter template chain =>
    readsAs_repetition rows row isParameter chain (readsAs template)

theorem readsAs_all : (simples : List SimpleView) →
    ∀ simple ∈ simples, ReadsAs simple.text (simple.reading .fallback)
  | [] => fun _ member ↦ nomatch member
  | simple :: others => List.forall_mem_cons.mpr ⟨readsAs simple, readsAs_all others⟩

end

end ViewPreview.Agreement
