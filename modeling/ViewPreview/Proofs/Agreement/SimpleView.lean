import ViewPreview.Preview
import ViewPreview.Proofs.Canonical.Tree

/-!
# Simple Views

The views that both ways of reading a source have in common: leaves, containers and repetitions of
canonical trees under any chains of modifiers without parentheses in their arguments, whether these
arguments can be read or not.  A simple view has one text, with each view on lines of its own, one
view that the text shows, and the caveats about its modifiers.

A modifier that cannot be read is reported on a line, and the two ways of reading differ in which
one: scanned, it is the line of the modifier, and found by structure, it is the line on which the
view that it modifies starts.
-/

namespace ViewPreview.Agreement

open ViewPreview.Text ViewPreview.Call ViewPreview.Number ViewPreview.Passage ViewPreview.Outline
open ViewPreview.Canonical (Leaf Container kindName callText parameterText)

/-! ## Arguments -/

/-- A name and the names of members behind it, as they are written. -/
def pathText (base : Identifier) (members : List Identifier) : List Char :=
  base.chars ++ members.flatMap caseText

/-- The value of an argument without parentheses.  A path to a member does not begin with the name
of a view, so that it is no view with a modifier. -/
inductive Atom where
  | text (content : PlainText)
  | numeral (value : Numeral)
  | range (bounds : IntegerRange)
  | enumCase (name : Identifier)
  | caseList (names : List Identifier)
  | path (base : Identifier) (members : List Identifier)
      (noView : members ≠ [] → namesView base.string false = false)

namespace Atom

/-- A value as it is written. -/
def chars : Atom → List Char
  | .text content => content.quoted
  | .numeral value => value.text
  | .range bounds => rangeText bounds
  | .enumCase name => caseText name
  | .caseList names => caseListText names
  | .path base members _ => pathText base members

/-- The view that a value is, if it is the name of one. -/
def view? : Atom → Option View
  | .path base _ _ =>
    if namesView base.string false then
      some (View.ofKind ((Kind.ofName? base.string).getD .custom))
    else none
  | _ => none

end Atom

theorem isTokenPart_pathText (base : Identifier) (members : List Identifier) :
    ∀ c ∈ pathText base members, isTokenPart c = true := by
  refine List.forall_mem_append.mpr ⟨?_, ?_⟩
  · intro c member
    exact isTokenPart_of_isIdentifierPart (base.isIdentifierPart_of_mem member)
  · intro c member
    obtain ⟨name, -, inside⟩ := List.mem_flatMap.mp member
    exact isTokenPart_caseText name c inside

theorem isValue_pathText (base : Identifier) (members : List Identifier) :
    IsValue (pathText base members) := by
  apply isValue_of_forall (isTokenPart_pathText base members)
  · exact List.append_ne_nil_of_left_ne_nil base.chars_ne_nil _
  · cases members with
    | nil =>
      rw [pathText, List.flatMap_nil, List.append_nil]
      exact splitLabel?_identifier base
    | cons name members =>
      have split : splitIdentifier? (pathText base (name :: members)) =
          some (base.chars, '.' :: (name.chars ++ members.flatMap caseText)) :=
        base.splitIdentifier?_append (stops_cons.mpr (by decide))
      rw [splitLabel?, pathText, trimStart_identifier, ← pathText, split]
      rfl

theorem Atom.isValue_chars : (atom : Atom) → IsValue atom.chars
  | .text content => content.isValue_quoted
  | .numeral value => isValue_numeral value
  | .range bounds => isValue_rangeText bounds
  | .enumCase name => isValue_caseText name
  | .caseList names => isValue_caseListText names
  | .path base members _ => isValue_pathText base members

/-- An argument: its label, and its value. -/
structure Operand where
  label : Option Identifier
  atom : Atom

namespace Operand

/-- An argument as it is written. -/
def written (operand : Operand) : WrittenArgument :=
  ⟨operand.label, operand.atom.chars, operand.atom.isValue_chars⟩

/-- An argument with the view of its value. -/
def viewed (operand : Operand) : Call.Argument :=
  { operand.written.argument with view := operand.atom.view? }

end Operand

/-- Arguments as they are written between parentheses. -/
def operandsText (operands : List Operand) : List Char :=
  argumentsText (operands.map Operand.written)

/-! ### Arguments on one line -/

theorem noBreak_of_isTokenPart {text : List Char} (all : ∀ c ∈ text, isTokenPart c = true) :
    '\n' ∉ text :=
  fun member ↦ ne_of_isTokenPart (all _ member) (by decide) rfl

theorem noBreak_cons {c : Char} {text : List Char} (visible : '\n' ≠ c) (noBreak : '\n' ∉ text) :
    '\n' ∉ c :: text :=
  List.not_mem_cons_of_ne_of_not_mem visible noBreak

theorem Atom.noBreak_chars : (atom : Atom) → '\n' ∉ atom.chars
  | .text content => by
    have inside : '\n' ∉ content.chars :=
      fun member ↦ content.ne_of_mem member '\n' (by decide) rfl
    exact noBreak_cons (by decide) (List.not_mem_append inside (by decide))
  | .numeral value => noBreak_of_isTokenPart (isTokenPart_numeral value)
  | .range bounds => noBreak_of_isTokenPart (isTokenPart_rangeText bounds)
  | .enumCase name => noBreak_of_isTokenPart (isTokenPart_caseText name)
  | .caseList names => by
    have inside : '\n' ∉ argumentsText (caseArguments names) := by
      intro member
      apply forall_mem_caseArguments (· ≠ '\n') names (by decide) (by decide) _ _ member rfl
      exact fun c part ↦ ne_of_isTokenPart part (by decide)
    exact noBreak_cons (by decide) (List.not_mem_append inside (by decide))
  | .path base members _ => noBreak_of_isTokenPart (isTokenPart_pathText base members)

theorem Operand.noBreak_text (operand : Operand) : '\n' ∉ operand.written.text := by
  obtain ⟨label, atom⟩ := operand
  cases label with
  | none => exact atom.noBreak_chars
  | some label =>
    have value : '\n' ∉ ':' :: ' ' :: atom.chars :=
      noBreak_cons (by decide) (noBreak_cons (by decide) atom.noBreak_chars)
    exact List.not_mem_append (label.not_mem_chars (by decide)) value

theorem noBreak_operandsText (operands : List Operand) : '\n' ∉ operandsText operands := by
  intro member
  apply @forall_mem_argumentsText (· ≠ '\n') _ (by decide) (by decide) _ _ member rfl
  intro written inside c inText same
  obtain ⟨operand, -, rfl⟩ := List.mem_map.mp inside
  exact operand.noBreak_text (same ▸ inText)

theorem lineFeeds_operandsText (operands : List Operand) :
    lineFeeds (argumentsText (operands.map Operand.written)) = 0 :=
  lineFeeds_eq_zero (noBreak_operandsText operands)

theorem lineFeeds_parentheses (operands : List Operand) :
    lineFeeds (Canonical.parenthesesText (some (operands.map Operand.written))) = 0 := by
  rw [Canonical.lineFeeds_parenthesesText, lineFeeds_operandsText]

/-! ## Modifiers -/

/-- A modifier with arguments without parentheses. -/
structure Modification where
  name : Identifier
  operands : List Operand

namespace Modification

/-- A modifier as it is written. -/
def text (modification : Modification) : List Char :=
  linkText modification.name (operandsText modification.operands)

/-- The arguments that the modifier gets, with the views of their values if it asks for them. -/
def arguments (modification : Modification) : Call.Arguments :=
  { values :=
      if argumentTakesView modification.name.string then modification.operands.map Operand.viewed
      else modification.operands.map fun operand ↦ operand.written.argument }

/-- What the arguments mean to the modifier. -/
def modifier (modification : Modification) : Modifier View :=
  (modifierOf modification.name.string modification.arguments).1

/-- What is wrong with the arguments, if they cannot be read. -/
def error? (modification : Modification) : Option ArgumentError :=
  (modifierOf modification.name.string modification.arguments).2

/-- What is reported about a modifier on a line. -/
def caveats (line : Nat) (modification : Modification) : List Caveat :=
  modification.error?.toList.flatMap fun error ↦ (Problem.badArguments error).caveats line

end Modification

/-- A chain of modifiers as it is written. -/
def chainText (chain : List Modification) : List Char :=
  chain.flatMap Modification.text

/-- A view with the modifiers of a chain. -/
def modified (view : View) (chain : List Modification) : View :=
  { view with modifiers := view.modifiers ++ chain.map Modification.modifier }

/-- What is reported about a chain of modifiers on a line. -/
def chainCaveats (line : Nat) (chain : List Modification) : List Caveat :=
  chain.flatMap (Modification.caveats line)

theorem modified_nil (view : View) : modified view [] = view := by
  cases view
  rw [modified, List.map_nil, List.append_nil]

theorem modified_cons (view : View) (modification : Modification) (chain : List Modification) :
    modified view (modification :: chain) =
      modified (view.addModifier modification.modifier) chain := by
  rw [modified, modified, View.addModifier, List.map_cons, List.append_assoc]
  rfl

/-! ## Constructors -/

theorem isIdentifier_imageLabel : isIdentifier "systemName".toList = true := by
  decide

theorem isIdentifier_alignmentLabel : isIdentifier "alignment".toList = true := by
  decide

theorem isIdentifier_spacingLabel : isIdentifier "spacing".toList = true := by
  decide

/-- The arguments of a leaf. -/
def leafOperands : Leaf → List Operand
  | .text content => [⟨none, .text content⟩]
  | .image symbol => [⟨some (Canonical.label "systemName" isIdentifier_imageLabel), .text symbol⟩]
  | .spacer | .divider | .placeholder _ _ => []

theorem map_written_leafOperands (head : Leaf) :
    (leafOperands head).map Operand.written = head.written := by
  cases head with
  | text content => rfl
  | image symbol => rfl
  | spacer => rfl
  | divider => rfl
  | placeholder name isPlaceholder => rfl

/-- The arguments of a container. -/
def containerOperands : Container → List Operand
  | .stack _ _ alignment spacing =>
    (alignment.toList.map fun alignment ↦
      ⟨some (Canonical.label "alignment" isIdentifier_alignmentLabel), .enumCase alignment⟩) ++
    spacing.toList.map fun spacing ↦
      ⟨some (Canonical.label "spacing" isIdentifier_spacingLabel), .numeral spacing⟩
  | .plain _ _ => []

theorem map_written_containerOperands (head : Container) :
    (containerOperands head).map Operand.written = head.written := by
  cases head with
  | stack kind isStack alignment spacing =>
    cases alignment with
    | none =>
      cases spacing with
      | none => rfl
      | some spacing => rfl
    | some alignment =>
      cases spacing with
      | none => rfl
      | some spacing => rfl
  | plain kind isPlain => rfl

/-! ## Views -/

/-- A view that both ways of reading understand. -/
inductive SimpleView where
  | leaf (head : Leaf) (chain : List Modification)
  | block (head : Container) (children : List SimpleView) (chain : List Modification)
  | repetition (rows : IntegerRange) (row : Identifier) (isParameter : row.string ∉ ["for", "in"])
      (template : SimpleView) (chain : List Modification)

namespace SimpleView

mutual

/-- The text of a view. -/
def text : SimpleView → List Char
  | .leaf head chain => callText head.name (some head.written) none ++ chainText chain
  | .block head children chain =>
    callText (kindName head.kind) head.arguments (some ('\n' :: lines children)) ++
      chainText chain
  | .repetition rows row _ template chain =>
    callText (kindName .forEach) (some (Canonical.rangeArguments rows))
        (some (parameterText row ++ '\n' :: (template.text ++ ['\n']))) ++
      chainText chain

/-- The texts of views, each on lines of its own. -/
def lines : List SimpleView → List Char
  | [] => []
  | simple :: others => simple.text ++ '\n' :: lines others

end

mutual

/-- The view that is shown. -/
def view : SimpleView → View
  | .leaf head chain => modified head.view chain
  | .block head children chain =>
    modified ⟨head.kind, head.properties, [], views children⟩ chain
  | .repetition rows row _ template chain =>
    modified
      { kind := .forEach
        properties :=
          [("forEachRange", .range rows), ("rowTemplate", .view template.view),
            ("rowVariable", .text row.string)]
        modifiers := []
        children := [] }
      chain

/-- The views that are shown one after another. -/
def views : List SimpleView → List View
  | [] => []
  | simple :: others => simple.view :: views others

end

/-- The line of the modifiers behind a call that takes up some more lines than one.  Scanned, they
stand where the call ends; found by structure, they count where the call starts. -/
def chainLine (backend : Backend) (line height : Nat) : Nat :=
  if backend.resolved = .fallback then line + height else line

mutual

/-- What is reported about the modifiers in a view that starts on a line. -/
def caveats (backend : Backend) (line : Nat) : SimpleView → List Caveat
  | .leaf _ chain => chainCaveats line chain
  | .block _ children chain =>
    allCaveats backend (line + 1) children ++
      chainCaveats (chainLine backend line (1 + lineFeeds (lines children))) chain
  | .repetition _ _ _ template chain =>
    template.caveats backend (line + 1) ++
      chainCaveats (chainLine backend line (2 + lineFeeds template.text)) chain

/-- What is reported about the modifiers in views that stand on successive lines. -/
def allCaveats (backend : Backend) (line : Nat) : List SimpleView → List Caveat
  | [] => []
  | simple :: others =>
    simple.caveats backend line ++
      allCaveats backend (line + lineFeeds simple.text + 1) others

end

/-- What a view is read as from a line on. -/
def reading (backend : Backend) (simple : SimpleView) (line : Nat) : Outline.Reading View :=
  ⟨simple.view, simple.caveats backend line⟩

/-! ## Reports that do not depend on the way of reading -/

/-- Whether the arguments of all modifiers in a chain can be read. -/
def Readable (chain : List Modification) : Prop :=
  ∀ modification ∈ chain, modification.error? = none

mutual

/-- Whether the modifiers behind calls of several lines can be read. -/
def IsLevel : SimpleView → Prop
  | .leaf _ _ => True
  | .block _ children chain => AreLevel children ∧ Readable chain
  | .repetition _ _ _ template chain => template.IsLevel ∧ Readable chain

/-- Whether this holds of successive views. -/
def AreLevel : List SimpleView → Prop
  | [] => True
  | simple :: others => simple.IsLevel ∧ AreLevel others

end

theorem problems_chainCaveats (line other : Nat) (chain : List Modification) :
    (chainCaveats line chain).map Caveat.problem =
      (chainCaveats other chain).map Caveat.problem := by
  have each (modification : Modification) : (modification.caveats line).map Caveat.problem =
      (modification.caveats other).map Caveat.problem := by
    rw [Modification.caveats, Modification.caveats]
    cases modification.error? with
    | none => rfl
    | some error => rfl
  rw [chainCaveats, chainCaveats, List.map_flatMap, List.map_flatMap, funext each]

theorem chainCaveats_of_readable {chain : List Modification} (readable : Readable chain)
    (line : Nat) : chainCaveats line chain = [] := by
  refine List.flatMap_eq_nil_iff.mpr fun modification member ↦ ?_
  rw [Modification.caveats, readable modification member]
  rfl

mutual

/-- Whichever way a view is read, the same problems are found in the same order. -/
theorem problems_caveats (backend other : Backend) (line : Nat) : (simple : SimpleView) →
    (simple.caveats backend line).map Caveat.problem =
      (simple.caveats other line).map Caveat.problem
  | .leaf _ _ => rfl
  | .block _ children chain => by
    rw [caveats, caveats, List.map_append, List.map_append,
      problems_allCaveats backend other (line + 1) children, problems_chainCaveats]
  | .repetition _ _ _ template chain => by
    rw [caveats, caveats, List.map_append, List.map_append,
      problems_caveats backend other (line + 1) template, problems_chainCaveats]

theorem problems_allCaveats (backend other : Backend) (line : Nat) : (simples : List SimpleView) →
    (allCaveats backend line simples).map Caveat.problem =
      (allCaveats other line simples).map Caveat.problem
  | [] => rfl
  | simple :: others => by
    rw [allCaveats, allCaveats, List.map_append, List.map_append, problems_caveats backend other,
      problems_allCaveats backend other]

end

theorem readable_of_chainCaveats {line other : Nat} (distinct : line ≠ other)
    {chain : List Modification} (same : chainCaveats line chain = chainCaveats other chain) :
    Readable chain := by
  induction chain with
  | nil => exact fun _ member ↦ nomatch member
  | cons modification chain ih =>
    rw [chainCaveats, chainCaveats, List.flatMap_cons, List.flatMap_cons] at same
    have ofFirst : modification.error? = none := by
      cases found : modification.error? with
      | none => rfl
      | some error =>
        have caveats (place : Nat) : modification.caveats place =
            [⟨some place, .badArguments error⟩] := by
          rw [Modification.caveats, found]
          rfl
        rw [caveats, caveats] at same
        have sameLine : some line = some other :=
          congrArg Caveat.line (List.cons.inj same).1
        exact absurd (Option.some.inj sameLine) distinct
    have noCaveats (place : Nat) : modification.caveats place = [] := by
      rw [Modification.caveats, ofFirst]
      rfl
    rw [noCaveats, noCaveats] at same
    exact List.forall_mem_cons.mpr ⟨ofFirst, ih same⟩

theorem length_eq_of_problems {caveats others : List Caveat}
    (same : caveats.map Caveat.problem = others.map Caveat.problem) :
    caveats.length = others.length := by
  have lengths := congrArg List.length same
  rwa [List.length_map, List.length_map] at lengths

theorem chainLine_ne (line height : Nat) (positive : 0 < height) :
    chainLine .structural line height ≠ chainLine .fallback line height := by
  have structural : chainLine .structural line height = line := rfl
  have fallback : chainLine .fallback line height = line + height := rfl
  rw [structural, fallback]
  omega

mutual

/-- The reports have the same lines exactly if the modifiers behind calls of several lines can be
read. -/
theorem caveats_eq_iff (line : Nat) : (simple : SimpleView) →
    (simple.caveats .structural line = simple.caveats .fallback line ↔ simple.IsLevel)
  | .leaf _ _ => ⟨fun _ ↦ trivial, fun _ ↦ rfl⟩
  | .block _ children chain => by
    have lengths := length_eq_of_problems
      (problems_allCaveats .structural .fallback (line + 1) children)
    rw [caveats, caveats, IsLevel, ← allCaveats_eq_iff (line + 1) children]
    constructor
    · intro same
      obtain ⟨inner, outer⟩ := List.append_inj same lengths
      exact ⟨inner, readable_of_chainCaveats (chainLine_ne line _ (by omega)) outer⟩
    · rintro ⟨inner, readable⟩
      rw [inner, chainCaveats_of_readable readable, chainCaveats_of_readable readable]
  | .repetition _ _ _ template chain => by
    have lengths := length_eq_of_problems
      (problems_caveats .structural .fallback (line + 1) template)
    rw [caveats, caveats, IsLevel, ← caveats_eq_iff (line + 1) template]
    constructor
    · intro same
      obtain ⟨inner, outer⟩ := List.append_inj same lengths
      exact ⟨inner, readable_of_chainCaveats (chainLine_ne line _ (by omega)) outer⟩
    · rintro ⟨inner, readable⟩
      rw [inner, chainCaveats_of_readable readable, chainCaveats_of_readable readable]

theorem allCaveats_eq_iff (line : Nat) : (simples : List SimpleView) →
    (allCaveats .structural line simples = allCaveats .fallback line simples ↔ AreLevel simples)
  | [] => ⟨fun _ ↦ trivial, fun _ ↦ rfl⟩
  | simple :: others => by
    have lengths := length_eq_of_problems (problems_caveats .structural .fallback line simple)
    rw [allCaveats, allCaveats, AreLevel, ← caveats_eq_iff line simple,
      ← allCaveats_eq_iff (line + lineFeeds simple.text + 1) others]
    constructor
    · exact fun same ↦ List.append_inj same lengths
    · rintro ⟨first, rest⟩
      rw [first, rest]

end

end SimpleView

end ViewPreview.Agreement
