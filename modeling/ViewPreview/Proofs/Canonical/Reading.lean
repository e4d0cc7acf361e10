import Mathlib
import ViewPreview.Proofs.Canonical.Tree
import ViewPreview.Proofs.Passage.Outline

/-!
# Reading Calls

The text of a call with a chain of modifiers, followed by anything that does not go on with it, is
scanned exactly to its end, and its closure and its modifiers have the lines that they stand on.
What the scanned expression stands for follows from what its call alone and its modifiers stand for.
-/

namespace ViewPreview.Canonical

open ViewPreview.Text ViewPreview.Call ViewPreview.Number ViewPreview.Passage ViewPreview.Outline

/-- Whether a text is scanned as a view wherever it ends an expression, given the line that it
starts on. -/
def ReadsAs (text : List Char) (reading : Nat → Reading View) : Prop :=
  ∀ (line : Nat) (rest : List Char), EndsExpression rest →
    ∃ scan, scan? ⟨some line, text ++ rest⟩ =
        some (scan, ⟨some (line + lineFeeds text), rest⟩) ∧
      scan.outline.view? = some (reading line)

/-! ## Modifier chains -/

/-- A modifier as it is written: its name and its arguments. -/
structure WrittenLink where
  name : Identifier
  arguments : List WrittenArgument

/-- A chain of modifiers as it is written. -/
def linksText (links : List WrittenLink) : List Char :=
  links.flatMap fun link ↦ linkText link.name (argumentsText link.arguments)

/-- The links that are scanned where a chain of modifiers starts on a line. -/
def scannedLinks : Nat → List WrittenLink → List ChainLink
  | _, [] => []
  | line, link :: links =>
    .call (some line) link.name.string (argumentsText link.arguments) none ::
      scannedLinks (line + lineFeeds (argumentsText link.arguments)) links

theorem linksText_cons (link : WrittenLink) (links : List WrittenLink) :
    linksText (link :: links) =
      linkText link.name (argumentsText link.arguments) ++ linksText links :=
  List.flatMap_cons

theorem lineFeeds_linksText_cons (link : WrittenLink) (links : List WrittenLink) :
    lineFeeds (linksText (link :: links)) =
      lineFeeds (argumentsText link.arguments) + lineFeeds (linksText links) := by
  rw [linksText_cons, lineFeeds_append, lineFeeds_linkText]

theorem noBlock_linksText (links : List WrittenLink) {rest : List Char} (noBlock : NoBlock rest) :
    NoBlock (linksText links ++ rest) := by
  cases links with
  | nil => exact noBlock
  | cons link links =>
    intro brace
    exact absurd (Option.some.inj brace) (by decide)

theorem noLabeledBlock_linksText (links : List WrittenLink) {rest : List Char}
    (noLabeledBlock : NoLabeledBlock rest) : NoLabeledBlock (linksText links ++ rest) := by
  cases links with
  | nil => exact noLabeledBlock
  | cons link links => rfl

/-- A chain of modifiers is scanned to its end. -/
theorem repeatStep_linksText (links : List WrittenLink) {rest : List Char} (noBlock : NoBlock rest)
    (noLink : NoLink rest) (line : Nat) :
    repeatStep link? ⟨some line, linksText links ++ rest⟩ =
      (scannedLinks line links, ⟨some (line + lineFeeds (linksText links)), rest⟩) := by
  induction links generalizing line with
  | nil =>
    have noOther : link? ⟨some line, rest⟩ = none := link?_eq_none noLink
    exact repeatStep_eq_nil noOther
  | cons link links ih =>
    have found := @link?_eq _ link.name _ (flat_argumentsText link.arguments)
      (noBlock_linksText links noBlock) line
    have shorter : Passage.length
        ⟨some (line + lineFeeds (argumentsText link.arguments)), linksText links ++ rest⟩ <
          Passage.length ⟨some line, linkText link.name (argumentsText link.arguments) ++
            (linksText links ++ rest)⟩ := by
      simp only [Passage.length, linkText, List.cons_append, List.length_cons, List.length_append]
      omega
    rw [linksText_cons, List.append_assoc, repeatStep_cons found shorter, ih, ← linksText_cons,
      lineFeeds_linksText_cons, Nat.add_assoc, scannedLinks]

/-! ## Adjustments -/

/-- A modifier of a canonical tree as it is written. -/
def Adjustment.link (adjustment : Adjustment) : WrittenLink :=
  ⟨adjustment.name, adjustment.written⟩

theorem chainText_eq (chain : List Adjustment) :
    chainText chain = linksText (chain.map Adjustment.link) := by
  rw [linksText, List.flatMap_map]
  rfl

theorem ne_mask {name : String} {kind : Category} (known : category name = kind)
    (other : kind ≠ .content) : (name == "mask") = false := by
  rw [beq_eq_false_iff_ne]
  rintro rfl
  exact other known.symm

/-- Only colors are written as arguments that may be views, and a color is no view. -/
theorem wholeScan?_written (adjustment : Adjustment)
    (takesView : argumentTakesView adjustment.name.string = true) :
    ∀ argument ∈ adjustment.written, wholeScan? argument.value = none := by
  cases adjustment with
  | flag name isFlag value =>
    change argumentTakesView name.string = true at takesView
    rw [argumentTakesView, isFlag, ne_mask isFlag (by decide)] at takesView
    cases takesView
  | number name isNumber value =>
    change argumentTakesView name.string = true at takesView
    rcases isNumber with isNumber | isBadge
    · rw [argumentTakesView, isNumber, ne_mask isNumber (by decide)] at takesView
      cases takesView
    · rw [argumentTakesView, isBadge, ne_mask isBadge (by decide)] at takesView
      cases takesView
  | paint name isPaint color =>
    have noView : wholeScan? (caseText color.name) = none := by
      rw [wholeScan?, (trimmed_caseText color.name).trim_eq]
      rfl
    exact List.forall_mem_cons.mpr ⟨noView, fun _ member ↦ nomatch member⟩
  | padding edges nonempty amount => cases takesView

theorem map_plain (arguments : List Call.Argument)
    (noView : ∀ argument ∈ arguments, argument.view = none) :
    (arguments.map argumentExpression).map Argument.plain = arguments := by
  induction arguments with
  | nil => rfl
  | cons argument arguments ih =>
    obtain ⟨here, later⟩ := List.forall_mem_cons.mp noView
    rw [List.map_cons, List.map_cons, ih later]
    obtain ⟨label, text, view⟩ := argument
    cases here
    rfl

theorem argumentViews_eq (arguments : List Call.Argument)
    (noView : ∀ argument ∈ arguments, argument.view = none)
    (noExpression : ∀ argument ∈ arguments, wholeScan? argument.text = none) :
    argumentViews (arguments.map argumentExpression) = ⟨arguments, []⟩ := by
  induction arguments with
  | nil => rfl
  | cons argument arguments ih =>
    obtain ⟨here, later⟩ := List.forall_mem_cons.mp noView
    obtain ⟨plain, others⟩ := List.forall_mem_cons.mp noExpression
    obtain ⟨label, text, view⟩ := argument
    cases here
    have first : argumentView (argumentExpression ⟨label, text, none⟩) =
        ⟨⟨label, text, none⟩, []⟩ := by
      rw [argumentExpression, plain]
      rfl
    rw [List.map_cons, argumentViews]
    simp only [first, ih later others, List.append_nil]

theorem view_of_mem_written {written : List WrittenArgument} :
    ∀ argument ∈ written.map WrittenArgument.argument, argument.view = none := by
  intro argument member
  obtain ⟨source, -, rfl⟩ := List.mem_map.mp member
  rfl

theorem argumentExpressions_written (written : List WrittenArgument) :
    argumentExpressions (argumentsText written) =
      (written.map WrittenArgument.argument).map argumentExpression := by
  rw [argumentExpressions, argumentsOf_argumentsText]

/-- A link adds its modifier. -/
theorem followLink_adjustment (line : Option Nat) (adjustment : Adjustment) (base : Reading View) :
    followLink base
        (ChainLink.call line adjustment.name.string (argumentsText adjustment.written)
          none).outline =
      ⟨base.value.addModifier adjustment.modifier, base.caveats⟩ := by
  have values :
      (if argumentTakesView adjustment.name.string then
        argumentViews (argumentExpressions (argumentsText adjustment.written))
      else ⟨(argumentExpressions (argumentsText adjustment.written)).map Argument.plain, []⟩) =
        (⟨adjustment.arguments.values, []⟩ : Reading _) := by
    rw [argumentExpressions_written]
    split
    · next takesView =>
      apply argumentViews_eq _ view_of_mem_written
      refine List.forall_mem_map.mpr fun source written ↦ ?_
      exact wholeScan?_written adjustment takesView source written
    · rw [map_plain _ view_of_mem_written]
      rfl
  have trailing : (if closureTakesView adjustment.name.string then trailingViews []
      else ⟨[], []⟩) = (⟨[], []⟩ : Reading _) := by
    rw [trailingViews, ite_self]
  have read : modifierOf adjustment.name.string ⟨adjustment.arguments.values, []⟩ =
      (adjustment.modifier, none) :=
    modifierOf_of_ok (interpret_arguments adjustment)
  rw [ChainLink.outline, followLink]
  simp only [Option.toList_none, List.map_nil, values, trailing, addLink, read, List.append_nil,
    List.flatMap_nil]

theorem followLinks_cons (base : Reading View) (link : Link Expression)
    (links : List (Link Expression)) :
    followLinks base (link :: links) = followLinks (followLink base link) links := by
  rw [followLinks]

/-- A chain of modifiers adds them in order. -/
theorem followLinks_adjustments (chain : List Adjustment) (line : Nat) (base : View)
    (caveats : List Caveat) :
    followLinks ⟨base, caveats⟩
        ((scannedLinks line (chain.map Adjustment.link)).map ChainLink.outline) =
      ⟨adjusted base chain, caveats⟩ := by
  induction chain generalizing line base with
  | nil =>
    rw [adjusted_nil]
    rfl
  | cons adjustment chain ih =>
    rw [List.map_cons, scannedLinks, List.map_cons, followLinks_cons, Adjustment.link,
      followLink_adjustment, ih, adjusted_cons]

/-! ## Calls -/

theorem balanced_argumentsText (written : List WrittenArgument) :
    Balanced '(' ')' (argumentsText written) := by
  apply balanced_of_forall
  intro c member
  have flat := flat_argumentsText written c member
  exact ⟨fun same ↦ flat (by rw [same]; decide), fun same ↦ flat (by rw [same]; decide)⟩

/-- The outlines of the arguments of a call. -/
def writtenExpressions (arguments : Option (List WrittenArgument)) :
    List (Outline.Argument Expression) :=
  argumentExpressions (argumentsText (arguments.getD []))

theorem callArguments?_parenthesesText (arguments : Option (List WrittenArgument))
    {rest : List Char} (other : arguments = none → rest.head? ≠ some '(') (line : Nat) :
    callArguments? ⟨some line, parenthesesText arguments ++ rest⟩ =
      some (arguments.map argumentsText,
        ⟨some (line + lineFeeds (parenthesesText arguments)), rest⟩) := by
  cases arguments with
  | none =>
    have uncalled : callArguments? ⟨some line, rest⟩ = some (none, ⟨some line, rest⟩) :=
      callArguments?_uncalled (other rfl)
    exact uncalled
  | some arguments =>
    rw [lineFeeds_parenthesesText, parenthesesText, List.cons_append, List.append_assoc]
    exact callArguments?_called (balanced_argumentsText arguments) line rest

theorem blocks_closureText (closure : Option (List Char)) {rest : List Char}
    (balanced : ∀ inner ∈ closure, Balanced '{' '}' inner) (noBlock : NoBlock rest)
    (noLabeledBlock : NoLabeledBlock rest) (line : Nat) :
    blocks ⟨some line, closureText closure ++ rest⟩ =
      (closure.toList.map fun inner ↦ ⟨none, ⟨some line, inner⟩⟩,
        ⟨some (line + lineFeeds (closureText closure)), rest⟩) := by
  cases closure with
  | none =>
    have noBlocks : blocks ⟨some line, rest⟩ = ([], ⟨some line, rest⟩) :=
      blocks_eq_nil noBlock noLabeledBlock
    exact noBlocks
  | some inner =>
    rw [lineFeeds_closureText, closureText, List.cons_append, List.cons_append, List.append_assoc]
    exact blocks_eq_singleton (balanced inner rfl) noLabeledBlock line

section Call

variable {name : Identifier} {arguments : Option (List WrittenArgument)}
  {closure : Option (List Char)}

/-- What follows the name of a call cannot belong to it. -/
theorem head_call (isCall : (arguments.isSome || closure.isSome) = true) (rest : List Char) :
    ∃ c others, parenthesesText arguments ++ (closureText closure ++ rest) = c :: others ∧
      (c = '(' ∨ c = ' ') ∧ (arguments = none → c = ' ') := by
  cases arguments with
  | some written => exact ⟨'(', _, rfl, Or.inl rfl, fun absent ↦ nomatch absent⟩
  | none =>
    cases closure with
    | some inner => exact ⟨' ', _, rfl, Or.inr rfl, fun _ ↦ rfl⟩
    | none => cases isCall

theorem call_eq {line : Option Nat} {links : List ChainLink} {name : String}
    (isCalled : ((arguments.map argumentsText).isSome ||
      !(closure.toList.map fun inner ↦ (⟨none, ⟨line, inner⟩⟩ : Block)).isEmpty) = true) :
    Scan.call ⟨name, arguments.map argumentsText,
        closure.toList.map fun inner ↦ ⟨none, ⟨line, inner⟩⟩, links⟩ =
      some ⟨writtenExpressions arguments,
        closure.toList.map fun inner ↦ closureExpression none ⟨line, inner⟩⟩ := by
  rw [Scan.call, Scan.isCalled, if_pos isCalled, List.map_map]
  cases arguments with
  | none => rfl
  | some written => rfl

/-- A call with a chain of modifiers is read when it is known what the call alone stands for and
what its modifiers add. -/
theorem readsAs_call {links : List WrittenLink} {reading : Nat → Reading View}
    (balanced : ∀ inner ∈ closure, Balanced '{' '}' inner)
    (isCall : (arguments.isSome || closure.isSome) = true)
    (named : namesView name.string true = true)
    (read : ∀ line, followLinks
        (headView name.string (some ⟨writtenExpressions arguments, closure.toList.map fun inner ↦
          closureExpression none ⟨some (line + lineFeeds (parenthesesText arguments)), inner⟩⟩))
        ((scannedLinks (line + lineFeeds (callText name arguments closure)) links).map
          ChainLink.outline) =
      reading line) :
    ReadsAs (callText name arguments closure ++ linksText links) reading := by
  intro line rest ends
  obtain ⟨c, others, tail, bracket, uncalled⟩ := head_call isCall (linksText links ++ rest)
  have shape : callText name arguments closure ++ linksText links ++ rest =
      name.chars ++ (c :: others) := by
    rw [← tail, callText, List.append_assoc, List.append_assoc, List.append_assoc]
  have stops : Stops isIdentifierPart (c :: others) := by
    apply stops_cons.mpr
    rcases bracket with rfl | rfl
    · decide
    · decide
  have noParenthesis : arguments = none →
      (closureText closure ++ (linksText links ++ rest)).head? ≠ some '(' := by
    rintro rfl
    have whole : closureText closure ++ (linksText links ++ rest) = c :: others := tail
    rw [whole, uncalled rfl]
    exact fun same ↦ absurd (Option.some.inj same) (by decide)
  have called := callArguments?_parenthesesText arguments noParenthesis line
  rw [tail, ← moveTo_sameLine line (name.not_mem_chars (by decide)), ← shape] at called
  have closed := blocks_closureText closure balanced (noBlock_linksText links ends.noBlock)
    (noLabeledBlock_linksText links ends.noLabeledBlock)
    (line + lineFeeds (parenthesesText arguments))
  have chained := repeatStep_linksText links ends.noBlock ends.noLink
    (line + lineFeeds (callText name arguments closure))
  rw [Nat.add_assoc line, ← lineFeeds_callText name] at closed
  have isCalled : ((arguments.map argumentsText).isSome || !(closure.toList.map fun inner ↦
      (⟨none, ⟨some (line + lineFeeds (parenthesesText arguments)), inner⟩⟩ : Block)).isEmpty) =
        true := by
    cases arguments with
    | some written => rfl
    | none =>
      cases closure with
      | some inner => rfl
      | none => cases isCall
  have isView := (congrArg (namesView name.string) isCalled).trans named
  have found := scan?_eq shape stops called closed isView chained
  rw [Nat.add_assoc, ← lineFeeds_append] at found
  refine ⟨_, found, ?_⟩
  rw [outline_eq, call_eq isCalled, Expression.view?, Option.isSome_some, if_pos named, read]

end Call

end ViewPreview.Canonical
