import ViewPreview.Proofs.Token.Call
import ViewPreview.Proofs.Token.Located

/-!
# Modifier Chains

A chain as it is written: the items of an expression, and behind them links, each a dot, the name of
a member, and any number of groups and labeled closures that it is called on.  The suffixes of the
whole are those of its pieces in order, and all calls of one member count as one.  So a chain on an
expression that is a view is that view with one modifier for each link, in source order.
-/

namespace ViewPreview

open ViewPreview.Outline

/-! ## Suffixes of a longer list -/

theorem split_optionalMark {part : Part} (isMark : Suffix.isOptionalMark part.item = true)
    (parts : List Part) : Suffix.split (part :: parts) = Suffix.split parts := by
  refine (Suffix.split.eq_def _).trans ?_
  cases parts with
  | nil =>
    simp only [isMark, if_true]
    rfl
  | cons next parts => simp only [isMark, if_true]

theorem split_labeled {label colon closure : Part} {name : List Char}
    (isLabel : label.item.word? = some name) (isColon : colon.item.isMark ":" = true)
    (isClosure : closure.item.isGroup "\x7b" = true) (parts : List Part) :
    Suffix.split (label :: colon :: closure :: parts) =
      (.call (Suffix.labeled name closure.call) :: (Suffix.split parts).1,
        (Suffix.split parts).2) := by
  -- A word is no mark, so it is not taken for the dot of a member.
  have single : label.item.isGrouped = false ∧ ∀ mark, label.item.isMark mark = false := by
    cases same : label.item with
    | group opening items closing =>
      rw [same] at isLabel
      cases isLabel
    | single token =>
      refine ⟨rfl, Token.isMark_eq_false_of_kind fun isMark ↦ ?_⟩
      rw [same, Item.word?, isMark] at isLabel
      cases isLabel
  have noMark : Suffix.isOptionalMark label.item = false := by
    rw [Suffix.isOptionalMark, single.2, Bool.false_and]
  refine (Suffix.split.eq_def _).trans ?_
  simp only [noMark, single.1, single.2, isLabel, isColon, isClosure, Bool.false_eq_true, if_false,
    if_true]

/-- Parts that are suffixes as a whole stay so when others follow them. -/
theorem split_append (more : List Part) (parts : List Part) (whole : (Suffix.split parts).2 = []) :
    Suffix.split (parts ++ more) =
      ((Suffix.split parts).1 ++ (Suffix.split more).1, (Suffix.split more).2) := by
  fun_induction Suffix.split parts with
  | case1 => rfl
  | case2 part isMark => exact split_optionalMark isMark more
  | case3 part noMark isGrouped => exact split_grouped isGrouped more
  | case4 part noMark single => cases whole
  | case5 part next parts isMark ih => exact (split_optionalMark isMark _).trans (ih whole)
  | case6 part next parts noMark isGrouped others ih =>
    rw [List.cons_append, split_grouped isGrouped, ih whole]
    rfl
  | case7 part next parts noMark single name isMember isDot others ih =>
    rw [List.cons_append, List.cons_append, split_dotted isDot isMember, ih whole]
    rfl
  | case8 part next noMark single label closure rest isColon isLabel isClosure others noDot ih =>
    rw [List.cons_append, List.cons_append, List.cons_append,
      split_labeled isLabel isColon isClosure, ih whole]
    rfl
  | case9 => cases whole
  | case10 => cases whole

/-! ## Chains of suffixes -/

/-- A chain goes on with suffixes that do not begin with a call. -/
theorem chain_append {line : Nat} {others : List Suffix}
    (uncalled : (Suffix.chain line others).1 = none) (suffixes : List Suffix) :
    Suffix.chain line (suffixes ++ others) =
      ((Suffix.chain line suffixes).1,
        (Suffix.chain line suffixes).2 ++ (Suffix.chain line others).2) := by
  induction suffixes with
  | nil => exact Prod.ext uncalled rfl
  | cons suffix suffixes ih =>
    cases suffix with
    | member name =>
      rw [List.cons_append, Suffix.chain, ih]
      rfl
    | call made =>
      rw [List.cons_append, Suffix.chain, ih]
      rfl

/-- Successive calls as one. -/
def mergedCall (calls : List (Outline.Call Expression)) : Outline.Call Expression :=
  ⟨calls.flatMap Call.arguments, calls.flatMap Call.closures⟩

theorem chain_calls (line : Nat) (calls : List (Outline.Call Expression)) :
    (Suffix.chain line (calls.map .call)).1.getD {} = mergedCall calls ∧
      (Suffix.chain line (calls.map .call)).2 = [] := by
  induction calls with
  | nil => exact ⟨rfl, rfl⟩
  | cons call calls ih =>
    obtain ⟨merged, unlinked⟩ := ih
    refine ⟨?_, unlinked⟩
    show call.append ((Suffix.chain line (calls.map .call)).1.getD {}) = _
    rw [merged]
    rfl

/-! ## Links -/

/-- What a name may be called on: a group, or a closure with a label. -/
inductive CallSuffix where
  | group (opening : Token) (items : List Item) (closing : Option Token)
  | labeled (label colon opening : Token) (items : List Item) (closing : Option Token)
      (isLabel : label.kind = .word) (isColon : colon.isMark ":" = true)
      (isBrace : opening.isMark "\x7b" = true)

namespace CallSuffix

/-- The items of a suffix. -/
def items : CallSuffix → List Item
  | .group opening items closing => [.group opening items closing]
  | .labeled label colon opening items closing _ _ _ =>
    [.single label, .single colon, .group opening items closing]

/-- The call that a suffix makes. -/
def call : CallSuffix → Outline.Call Expression
  | .group opening items closing => (Item.group opening items closing).part.call
  | .labeled label _ opening items closing _ _ _ =>
    Suffix.labeled label.text (Item.group opening items closing).part.call

theorem split_items (suffix : CallSuffix) (parts : List Part) :
    Suffix.split (partsOf suffix.items ++ parts) =
      (.call suffix.call :: (Suffix.split parts).1, (Suffix.split parts).2) := by
  cases suffix with
  | group opening items closing =>
    have isGrouped : (Item.group opening items closing).part.item.isGrouped = true := by
      rw [item_part]
      rfl
    exact split_grouped isGrouped parts
  | labeled label colon opening items closing isLabel isColon isBrace =>
    have isWord : (Item.single label).part.item.word? = some label.text := by
      rw [item_part, Item.word?, isLabel]
      rfl
    have isMark : (Item.single colon).part.item.isMark ":" = true := isColon
    have isClosure : (Item.group opening items closing).part.item.isGroup "\x7b" = true := by
      rw [item_part, Item.isGroup, Item.itemsIn?, isBrace]
      rfl
    exact split_labeled isWord isMark isClosure parts

end CallSuffix

/-- A link of a chain as it is written: a dot and the name of a member, and what it is called on, if
it is called at all. -/
structure ModifierLink where
  dot : Token
  member : Token
  suffixes : List CallSuffix
  isDot : dot.isMark "." = true
  isMember : (member.kind == .word || member.kind == .number) = true

namespace ModifierLink

/-- The items of a link. -/
def items (link : ModifierLink) : List Item :=
  .single link.dot :: .single link.member :: link.suffixes.flatMap CallSuffix.items

/-- The name of a link. -/
def name (link : ModifierLink) : String :=
  String.ofList link.member.text

/-- The call of a link: the arguments and closures of all that it is called on, in source order. -/
def call (link : ModifierLink) : Outline.Call Expression :=
  mergedCall (link.suffixes.map CallSuffix.call)

/-- A link as an outline. -/
def outline (line : Nat) (link : ModifierLink) : Link Expression :=
  .call (some line) link.name link.call

/-- The arguments of a link as its modifier gets them. -/
def arguments (link : ModifierLink) : Call.Arguments :=
  (Link.call none link.name link.call).arguments

/-- The modifier of a link, without arguments if these cannot be read. -/
def modifier (link : ModifierLink) : Modifier View :=
  match Call.interpret link.name link.arguments with
  | .ok value => ⟨link.name, value⟩
  | .error _ => .bare link.name

/-- The caveat about the arguments of a link in a chain that starts on a given line, if they cannot
be read. -/
def ownCaveats (line : Nat) (link : ModifierLink) : List Caveat :=
  match Call.interpret link.name link.arguments with
  | .ok _ => []
  | .error error => [⟨some line, .badArguments error⟩]

/-- The caveats of the views that a link takes as arguments or in closures. -/
def innerCaveats (link : ModifierLink) : List Caveat :=
  argumentsCaveats (Link.call none link.name link.call).readArguments ++
    closuresCaveats (Link.call none link.name link.call).readClosures

/-! ### Suffixes -/

/-- The suffixes that a link makes. -/
def suffixesOf (link : ModifierLink) : List Suffix :=
  .member link.name :: (link.suffixes.map CallSuffix.call).map .call

theorem split_suffixes (suffixes : List CallSuffix) (parts : List Part) :
    Suffix.split (partsOf (suffixes.flatMap CallSuffix.items) ++ parts) =
      ((suffixes.map CallSuffix.call).map .call ++ (Suffix.split parts).1,
        (Suffix.split parts).2) := by
  induction suffixes with
  | nil => rfl
  | cons suffix suffixes ih =>
    rw [List.flatMap_cons, partsOf_append, List.append_assoc, suffix.split_items, ih]
    rfl

theorem split_items (link : ModifierLink) (parts : List Part) :
    Suffix.split (partsOf link.items ++ parts) =
      (link.suffixesOf ++ (Suffix.split parts).1, (Suffix.split parts).2) := by
  have isDot : (Item.single link.dot).part.item.isMark "." = true := link.isDot
  have isMember : Suffix.memberName? (Item.single link.member).part.item = some link.name :=
    if_pos link.isMember
  show Suffix.split ((Item.single link.dot).part :: (Item.single link.member).part ::
    (partsOf (link.suffixes.flatMap CallSuffix.items) ++ parts)) = _
  rw [split_dotted isDot isMember, split_suffixes]
  rfl

/-- The items of successive links are suffixes as a whole. -/
theorem split_links (links : List ModifierLink) :
    Suffix.split (partsOf (links.flatMap items)) = (links.flatMap suffixesOf, []) := by
  induction links with
  | nil => rfl
  | cons link links ih =>
    rw [List.flatMap_cons, partsOf_append, link.split_items, ih]
    rfl

theorem chain_suffixesOf {line : Nat} (link : ModifierLink) {others : List Suffix}
    (uncalled : (Suffix.chain line others).1 = none) :
    Suffix.chain line (link.suffixesOf ++ others) =
      (none, link.outline line :: (Suffix.chain line others).2) := by
  obtain ⟨merged, unlinked⟩ := chain_calls line (link.suffixes.map CallSuffix.call)
  rw [suffixesOf, List.cons_append, Suffix.chain, chain_append uncalled, unlinked]
  show (none, Link.call (some line) link.name (Option.getD _ {}) :: _) = _
  rw [merged]
  rfl

/-- Each link makes one link of the outline. -/
theorem chain_links (line : Nat) (links : List ModifierLink) :
    Suffix.chain line (links.flatMap suffixesOf) = (none, links.map (outline line)) := by
  induction links with
  | nil => rfl
  | cons link links ih =>
    rw [List.flatMap_cons, link.chain_suffixesOf (congrArg Prod.fst ih), ih]
    rfl

/-! ### Views -/

/-- Every link keeps its name, also one that is not known or whose arguments cannot be read. -/
theorem name_modifier (link : ModifierLink) : link.modifier.name = link.name := by
  rw [modifier]
  cases Call.interpret link.name link.arguments with
  | ok value => rfl
  | error error => rfl

theorem value_followLink (line : Nat) (link : ModifierLink) (base : Reading View) :
    (followLink base (link.outline line)).value = base.value.addModifier link.modifier := by
  have read : link.modifier = (Call.modifierOf link.name link.arguments).1 := by
    rw [modifier, Call.modifierOf]
    cases Call.interpret link.name link.arguments with
    | ok value => rfl
    | error error => rfl
  rw [read, arguments, outline, call, mergedCall, followLink, Link.arguments]
  cases Call.argumentTakesView link.name
  all_goals
    cases Call.closureTakesView link.name
    all_goals rfl

theorem caveats_outline (line : Nat) (link : ModifierLink) :
    (link.outline line).caveats = link.innerCaveats ++ link.ownCaveats line := by
  have own : (link.outline line).problems.flatMap (fun problem ↦ problem.caveats (some line)) =
      link.ownCaveats line := by
    show ((Call.modifierOf link.name link.arguments).2.toList.map Problem.badArguments).flatMap
      _ = _
    rw [ownCaveats, Call.modifierOf]
    cases Call.interpret link.name link.arguments with
    | ok value => rfl
    | error error => rfl
  rw [← own]
  rfl

/-- Successive links add their modifiers in order. -/
theorem followLinks_outlines (line : Nat) (links : List ModifierLink) (base : Reading View) :
    followLinks base (links.map (outline line)) =
      ⟨{ base.value with modifiers := base.value.modifiers ++ links.map modifier },
        base.caveats ++ links.flatMap fun link ↦ link.innerCaveats ++ link.ownCaveats line⟩ := by
  induction links generalizing base with
  | nil =>
    obtain ⟨⟨kind, properties, modifiers, children⟩, caveats⟩ := base
    rw [List.map_nil, List.map_nil, List.flatMap_nil, List.append_nil, List.append_nil, followLinks]
  | cons link links ih =>
    have step : followLink base (link.outline line) =
        ⟨base.value.addModifier link.modifier,
          base.caveats ++ (link.innerCaveats ++ link.ownCaveats line)⟩ := by
      rw [← value_followLink line, ← caveats_outline, ← caveats_followLink]
    rw [List.map_cons, followLinks, step, ih]
    simp only [View.addModifier, List.map_cons, List.flatMap_cons, List.append_assoc,
      List.singleton_append]

end ModifierLink

/-! ## Chains on an expression -/

theorem followLinks_append (base : Reading View) (links others : List (Link Expression)) :
    followLinks base (links ++ others) = followLinks (followLinks base links) others := by
  induction links generalizing base with
  | nil => rfl
  | cons link links ih => rw [List.cons_append, followLinks, followLinks, ih]

theorem wholeExpression?_cons_eq_some_iff {part : Part} {parts : List Part}
    {expression : Expression} :
    wholeExpression? (part :: parts) = some expression ↔
      ∃ name, part.item.word? = some name ∧ (Suffix.split parts).2 = [] ∧
        expression = ⟨String.ofList name,
          (Suffix.chain part.item.first.line (Suffix.split parts).1).1,
          (Suffix.chain part.item.first.line (Suffix.split parts).1).2⟩ := by
  rw [wholeExpression?, leadingExpression?]
  obtain ⟨suffixes, rest⟩ := Suffix.split parts
  cases part.item.word? with
  | none =>
    constructor
    · rintro ⟨⟩
    · rintro ⟨_, ⟨⟩, -⟩
  | some name =>
    cases rest with
    | nil =>
      constructor
      · rintro ⟨⟩
        exact ⟨name, rfl, rfl, rfl⟩
      · rintro ⟨_, ⟨⟩, -, rfl⟩
        rfl
    | cons other others =>
      constructor
      · rintro ⟨⟩
      · rintro ⟨_, -, ⟨⟩, -⟩

/-- The items of an expression and of links behind it are the expression with these links. -/
theorem wholeExpression?_links {base : List Item} {expression : Expression}
    (whole : wholeExpression? (partsOf base) = some expression) (links : List ModifierLink) :
    ∃ line, Part.lineOf? (partsOf base) = some line ∧
      wholeExpression? (partsOf (base ++ links.flatMap ModifierLink.items)) =
        some ⟨expression.name, expression.call,
          expression.links ++ links.map (ModifierLink.outline line)⟩ := by
  rw [partsOf_append]
  cases same : partsOf base with
  | nil =>
    rw [same] at whole
    cases whole
  | cons part parts =>
    rw [same, wholeExpression?_cons_eq_some_iff] at whole
    obtain ⟨name, isWord, complete, rfl⟩ := whole
    have split := split_append (partsOf (links.flatMap ModifierLink.items)) parts complete
    rw [ModifierLink.split_links] at split
    have chain := ModifierLink.chain_links part.item.first.line links
    refine ⟨part.item.first.line, rfl, ?_⟩
    rw [List.cons_append, wholeExpression?_cons_eq_some_iff, split]
    refine ⟨name, isWord, rfl, ?_⟩
    rw [chain_append (congrArg Prod.fst chain), chain]

/-- A text on the second line. -/
def shortText : List Item :=
  [.single ⟨.word, [], "Text".toList, 2⟩,
    .group (markToken [] ['('] 2) [.single ⟨.string, [], "\"a\"".toList, 2⟩]
      (some (markToken [] [')'] 2))]

/-- A link on the third line that has a name behind its dot. -/
def linkNamed (name : String) (suffixes : List CallSuffix) : ModifierLink where
  dot := markToken ['\n'] ['.'] 3
  member := ⟨.word, [], name.toList, 3⟩
  suffixes := suffixes
  isDot := rfl
  isMember := rfl

/-- Arguments in parentheses. -/
def inParentheses (items : List Item) : CallSuffix :=
  .group (markToken [] ['('] 3) items (some (markToken [] [')'] 3))

/-- A modifier that is not known, a call without the arguments it needs, and one with its arguments
in two groups and a closure. -/
def mixedLinks : List ModifierLink :=
  [linkNamed "shiny" [], linkNamed "font" [inParentheses []],
    linkNamed "overlay"
      [inParentheses [], inParentheses
        [.single ⟨.word, [], "alignment".toList, 3⟩, .single (markToken [] [':'] 3),
          .single (markToken [' '] ['.'] 3), .single ⟨.word, [], "top".toList, 3⟩],
        .group (markToken [' '] ['\x7b'] 3) shortText (some (markToken [' '] ['\x7d'] 3))]]

end ViewPreview
