import Mathlib.Data.List.Lex
import ViewPreview.Proofs.View.Nesting
import ViewPreview.View.Preorder

/-!
# Lookups in Document Order

A place in a tree tells which child to go to at each level.  In lexicographic order the places of a
tree stand in document order: a view comes before what is inside it, and what is inside an earlier
child comes before a later one.  A lookup answers with the view at the first place that has an
answer.  So a navigation shows the first title that is given inside it, and a tree stands for the
first text in it.
-/

namespace ViewPreview

/-! ## Places -/

/-- The view at a place of a tree. -/
def View.inside? (view : View) (place : List Nat) : Option View :=
  view.at? (place.map .child)

/-- The view at a place of a list of trees, of which the first index tells the tree. -/
def insideViews? (views : List View) : List Nat → Option View
  | [] => none
  | index :: place => views[index]?.bind fun view ↦ view.inside? place

/-- Below the root of a tree stand the trees of its children. -/
theorem View.inside?_of_ne_nil (view : View) {place : List Nat} (below : place ≠ []) :
    view.inside? place = insideViews? view.children place := by
  cases place with
  | nil => exact absurd rfl below
  | cons index place => rfl

theorem ne_nil_of_insideViews? {views : List View} {place : List Nat} {view : View}
    (found : insideViews? views place = some view) : place ≠ [] := by
  rintro rfl
  cases found

/-! ## First answers -/

/-- What is answered by the first view in document order that has an answer, if there is one. -/
inductive FirstAnswer {α : Type} (answer? : View → Option α) (tree : List Nat → Option View) :
    Option α → Prop
  | found {place : List Nat} {view : View} {answer : α} (inside : tree place = some view)
      (own : answer? view = some answer)
      (first : ∀ earlier < place, ∀ other, tree earlier = some other → answer? other = none) :
      FirstAnswer answer? tree (some answer)
  | nowhere (silent : ∀ place view, tree place = some view → answer? view = none) :
      FirstAnswer answer? tree none

section FirstAnswer

variable {α : Type} {answer? : View → Option α} {tree : List Nat → Option View}
  {result : Option α} {view : View} {views : List View}

/-- The places are in a linear order, so there is one first answer. -/
theorem FirstAnswer.unique {other : Option α} (one : FirstAnswer answer? tree result)
    (another : FirstAnswer answer? tree other) : result = other := by
  cases one with
  | nowhere silent =>
    cases another with
    | nowhere _ => rfl
    | found inside own _ => exact absurd ((silent _ _ inside).symm.trans own) nofun
  | @found place view answer inside own first =>
    cases another with
    | nowhere silent => exact absurd ((silent _ _ inside).symm.trans own) nofun
    | @found otherPlace otherView otherAnswer otherInside otherOwn otherFirst =>
      rcases lt_trichotomy place otherPlace with before | same | behind
      · exact absurd ((otherFirst _ before _ inside).symm.trans own) nofun
      · rw [same, otherInside] at inside
        cases inside
        rw [← own, otherOwn]
      · exact absurd ((first _ behind _ otherInside).symm.trans otherOwn) nofun

/-- The root of a tree comes first. -/
theorem FirstAnswer.root {answer : α} (own : answer? view = some answer) :
    FirstAnswer answer? view.inside? (some answer) := by
  have root : view.inside? [] = some view := rfl
  exact .found root own fun _ earlier ↦ absurd earlier (List.not_lt_nil _)

/-- Behind a root without an answer comes what its children answer. -/
theorem FirstAnswer.below (silentRoot : answer? view = none)
    (children : FirstAnswer answer? (insideViews? view.children) result) :
    FirstAnswer answer? view.inside? result := by
  have stepwise {place : List Nat} {inner : View} (inside : view.inside? place = some inner)
      (silent : insideViews? view.children place = some inner → answer? inner = none) :
      answer? inner = none := by
    by_cases root : place = []
    · subst root
      cases inside
      exact silentRoot
    · exact silent (view.inside?_of_ne_nil root ▸ inside)
  cases children with
  | nowhere silent => exact .nowhere fun place inner inside ↦ stepwise inside (silent place inner)
  | @found place inner answer inside own first =>
    rw [← view.inside?_of_ne_nil (ne_nil_of_insideViews? inside)] at inside
    exact .found inside own fun earlier before other at_ ↦
      stepwise at_ (first earlier before other)

theorem FirstAnswer.empty : FirstAnswer answer? (insideViews? []) none :=
  .nowhere fun place _ inside ↦ by
    cases place with
    | nil => cases inside
    | cons index place => cases inside

/-- What the first of several trees answers comes first. -/
theorem FirstAnswer.head {answer : α} (first : FirstAnswer answer? view.inside? (some answer)) :
    FirstAnswer answer? (insideViews? (view :: views)) (some answer) := by
  cases first with
  | @found place inner _ inside own first =>
    have inFirst : insideViews? (view :: views) (0 :: place) = some inner := inside
    refine .found inFirst own fun earlier before other at_ ↦ ?_
    cases earlier with
    | nil => cases at_
    | cons index earlier =>
      rcases List.cons_lt_cons_iff.mp before with smaller | ⟨rfl, deeper⟩
      · exact absurd smaller (Nat.not_lt_zero index)
      · exact first earlier deeper other at_

/-- Behind a tree without an answer comes what the others answer. -/
theorem FirstAnswer.tail (silentTree : FirstAnswer answer? view.inside? none)
    (others : FirstAnswer answer? (insideViews? views) result) :
    FirstAnswer answer? (insideViews? (view :: views)) result := by
  cases silentTree with
  | nowhere silentTree =>
    cases others with
    | nowhere silent =>
      refine .nowhere fun place inner inside ↦ ?_
      match place with
      | [] => cases inside
      | 0 :: place => exact silentTree place inner inside
      | (index + 1) :: place => exact silent (index :: place) inner inside
    | @found place inner answer inside own first =>
      obtain ⟨index, place, rfl⟩ := List.exists_cons_of_ne_nil (ne_nil_of_insideViews? inside)
      have inOthers : insideViews? (view :: views) ((index + 1) :: place) = some inner := inside
      refine .found inOthers own fun earlier before other at_ ↦ ?_
      match earlier with
      | [] => cases at_
      | 0 :: earlier => exact silentTree earlier other at_
      | (number + 1) :: earlier =>
        refine first (number :: earlier) ?_ other at_
        rw [List.cons_lt_cons_iff] at before ⊢
        exact before.imp Nat.lt_of_succ_lt_succ (And.imp_left Nat.succ.inj)

end FirstAnswer

mutual

theorem firstAnswer_findInTree? {α : Type} (answer? : View → Option α) :
    ∀ view : View, FirstAnswer answer? view.inside? (view.findInTree? answer?)
  | ⟨kind, properties, modifiers, children⟩ => by
    rw [View.findInTree?]
    cases own : answer? ⟨kind, properties, modifiers, children⟩ with
    | some answer => exact .root own
    | none => exact .below own (firstAnswer_findInViews? answer? children)

theorem firstAnswer_findInViews? {α : Type} (answer? : View → Option α) :
    ∀ views : List View, FirstAnswer answer? (insideViews? views) (findInViews? answer? views)
  | [] => .empty
  | view :: views => by
    have head := firstAnswer_findInTree? answer? view
    rw [findInViews?]
    cases found : view.findInTree? answer? with
    | some answer =>
      rw [found] at head
      exact head.head
    | none =>
      rw [found] at head
      exact head.tail (firstAnswer_findInViews? answer? views)

end

section Lookups

variable {α : Type} {answer? : View → Option α} {tree : List Nat → Option View}
  {result : Option α} {answer : α}

theorem FirstAnswer.eq_some_iff (answered : FirstAnswer answer? tree result) :
    result = some answer ↔
      ∃ place view, tree place = some view ∧ answer? view = some answer ∧
        ∀ earlier < place, ∀ other, tree earlier = some other → answer? other = none := by
  constructor
  · rintro rfl
    cases answered with
    | found inside own first => exact ⟨_, _, inside, own, first⟩
  · rintro ⟨place, view, inside, own, first⟩
    exact answered.unique (.found inside own first)

theorem FirstAnswer.eq_none_iff (answered : FirstAnswer answer? tree result) :
    result = none ↔ ∀ place view, tree place = some view → answer? view = none := by
  constructor
  · rintro rfl
    cases answered with
    | nowhere silent => exact silent
  · intro silent
    exact answered.unique (.nowhere silent)

end Lookups

/-! ## Titles and texts -/

namespace View

/-- Whether the last modifier of a name in the chain of a view has given arguments. -/
def Carries (view : View) (name : String) (arguments : ModifierArguments View) : Prop :=
  ∃ before after, view.modifiers = before ++ ⟨name, arguments⟩ :: after ∧
    ∀ later ∈ after, later.name ≠ name

/-- Whether a view gives a title to the navigation around it, to be shown inline or not. -/
def GivesTitle (view : View) (title : String) (inline : Bool) : Prop :=
  view.Carries "navigationTitle" (.text title) ∧
    (inline = true ↔ view.Carries "navigationBarTitleDisplayMode" (.token "inline"))

/-- Whether a view shows a text by itself: as its text, or as its title when it has no text. -/
def ShowsText (view : View) (text : String) : Prop :=
  view.string? "text" = some text ∨
    view.string? "text" = none ∧ view.string? "title" = some text

section Own

variable {view : View} {name title token text : String} {inline : Bool}
  {arguments : ModifierArguments View}

theorem carries_iff :
    view.Carries name arguments ↔ view.modifier? name = some ⟨name, arguments⟩ := by
  rw [modifier?, List.find?_eq_some_iff_append, and_iff_right (beq_self_eq_true name)]
  constructor
  · rintro ⟨before, after, chain, others⟩
    refine ⟨after.reverse, before.reverse, ?_, fun later member ↦ ?_⟩
    · rw [chain, List.reverse_append, List.reverse_cons, List.append_assoc, List.singleton_append]
    · simpa using others later (List.mem_reverse.mp member)
  · rintro ⟨after, before, reversed, others⟩
    refine ⟨before.reverse, after.reverse, ?_, fun later member ↦ ?_⟩
    · rw [← view.modifiers.reverse_reverse, reversed, List.reverse_append, List.reverse_cons,
        List.append_assoc, List.singleton_append]
    · simpa using others later (List.mem_reverse.mp member)

theorem name_of_modifier? {modifier : Modifier View} (found : view.modifier? name = some modifier) :
    modifier.name = name :=
  beq_iff_eq.mp (List.find?_some (p := fun carried : Modifier View ↦ carried.name == name) found)

theorem modifierToken?_eq_some_iff :
    view.modifierToken? name = some token ↔ view.Carries name (.token token) := by
  rw [carries_iff, modifierToken?]
  split
  · next found =>
    obtain rfl := name_of_modifier? found
    rw [found]
    simp only [Option.some.injEq, Modifier.mk.injEq, true_and, ModifierArguments.token.injEq]
  · next noToken => exact ⟨nofun, fun found ↦ absurd found (noToken name token)⟩

theorem ownNavigationTitle?_eq_some_iff :
    view.ownNavigationTitle? = some (title, inline) ↔ view.GivesTitle title inline := by
  rw [GivesTitle, carries_iff, ← modifierToken?_eq_some_iff, ownNavigationTitle?]
  split
  · next found =>
    obtain rfl := name_of_modifier? found
    rw [found]
    simp only [Option.some.injEq, Prod.mk.injEq, Modifier.mk.injEq, true_and,
      ModifierArguments.text.injEq]
    refine and_congr_right fun _ ↦ ?_
    rw [Bool.eq_iff_iff, beq_iff_eq]
    exact iff_comm
  · next noText => exact ⟨nofun, fun ⟨found, _⟩ ↦ absurd found (noText _ title)⟩

theorem ownNavigationTitle?_eq_none_iff :
    view.ownNavigationTitle? = none ↔ ∀ title, ¬view.Carries "navigationTitle" (.text title) := by
  rw [Option.eq_none_iff_forall_ne_some]
  constructor
  · intro silent title carries
    refine silent (title, view.modifierToken? "navigationBarTitleDisplayMode" == some "inline") ?_
    rw [ownNavigationTitle?_eq_some_iff]
    exact ⟨carries, beq_iff_eq.trans modifierToken?_eq_some_iff⟩
  · rintro untitled ⟨title, inline⟩ found
    exact untitled title (ownNavigationTitle?_eq_some_iff.mp found).1

theorem ownText?_eq_some_iff : view.ownText? = some text ↔ view.ShowsText text :=
  Option.or_eq_some_iff

theorem ownText?_eq_none_iff : view.ownText? = none ↔ ∀ text, ¬view.ShowsText text := by
  simp only [Option.eq_none_iff_forall_ne_some, ne_eq, ownText?_eq_some_iff]

end Own

/-- Titles and texts are looked up in document order.  The title of a navigation is that of the first
view below its root whose last title modifier carries a text, to be shown inline when the last
display mode of that view says so; the text of a tree is that of the first view in it, the root
included, that shows a text by itself. -/
theorem lookups_in_document_order (view : View) :
    (∀ title inline, view.navigationTitle? = some (title, inline) ↔
      ∃ place inner, place ≠ [] ∧ view.inside? place = some inner ∧ inner.GivesTitle title inline ∧
        ∀ earlier < place, ∀ other, earlier ≠ [] → view.inside? earlier = some other →
          ∀ title, ¬other.Carries "navigationTitle" (.text title)) ∧
    (view.navigationTitle? = none ↔
      ∀ place inner, place ≠ [] → view.inside? place = some inner →
        ∀ title, ¬inner.Carries "navigationTitle" (.text title)) ∧
    (∀ text, view.plainText? = some text ↔
      ∃ place inner, view.inside? place = some inner ∧ inner.ShowsText text ∧
        ∀ earlier < place, ∀ other, view.inside? earlier = some other →
          ∀ text, ¬other.ShowsText text) ∧
    (view.plainText? = none ↔
      ∀ place inner, view.inside? place = some inner → ∀ text, ¬inner.ShowsText text) := by
  have titles : FirstAnswer ownNavigationTitle? (insideViews? view.children) view.navigationTitle? :=
    firstAnswer_findInViews? ownNavigationTitle? view.children
  have texts : FirstAnswer ownText? view.inside? view.plainText? :=
    firstAnswer_findInTree? ownText? view
  -- The places in the list of the children are the places below the root.
  have below {place : List Nat} {inner : View} :
      insideViews? view.children place = some inner ↔
        place ≠ [] ∧ view.inside? place = some inner := by
    constructor
    · intro found
      have nonempty := ne_nil_of_insideViews? found
      exact ⟨nonempty, (view.inside?_of_ne_nil nonempty).trans found⟩
    · rintro ⟨nonempty, found⟩
      exact (view.inside?_of_ne_nil nonempty).symm.trans found
  refine ⟨fun title inline ↦ ?_, ?_, fun text ↦ ?_, ?_⟩
  · simp only [titles.eq_some_iff, below, ownNavigationTitle?_eq_some_iff,
      ownNavigationTitle?_eq_none_iff, and_assoc, and_imp]
  · simp only [titles.eq_none_iff, below, ownNavigationTitle?_eq_none_iff, and_imp]
  · simp only [texts.eq_some_iff, ownText?_eq_some_iff, ownText?_eq_none_iff]
  · simp only [texts.eq_none_iff, ownText?_eq_none_iff]

/-- A title deep in an earlier child wins over that of a later child, and its last title modifier
counts. -/
example :
    let titled (title : String) (view : View) :=
      view.addModifier ⟨"navigationTitle", .text title⟩
    (around .navigationStack [around .vStack [titled "b" (titled "a" (ofText "x"))],
      titled "c" (ofText "y")]).navigationTitle? = some ("b", false) := by
  decide

end View

end ViewPreview
