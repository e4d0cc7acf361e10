import Mathlib.Data.List.Perm.Basic
import ViewPreview.Proofs.View.Entry
import ViewPreview.Proofs.View.Nesting
import ViewPreview.View.Weight

/-!
# Views Inside a View

The views that stand directly in a view are its children, the views among its properties and those
that its modifiers carry.  Its subviews are the view itself and the subviews of these, listed as
often as they occur, so that two lists of views hold the same subviews when one list of them is a
permutation of the other.
-/

namespace ViewPreview

/-- The view that a property value holds. -/
def PropertyValue.view? : PropertyValue View → Option View
  | .view held => some held
  | _ => none

/-- The properties that hold views. -/
def viewEntries (properties : List (String × PropertyValue View)) : List (String × View) :=
  properties.filterMap fun property ↦ property.2.view?.map fun view ↦ (property.1, view)

section Entries

variable {properties others : List (String × PropertyValue View)} {key : String}
  {value : PropertyValue View} {view : View}

theorem mem_viewEntries :
    (key, view) ∈ viewEntries properties ↔ (key, .view view) ∈ properties := by
  constructor
  · intro member
    obtain ⟨⟨name, held⟩, inside, holds⟩ := List.mem_filterMap.mp member
    cases held with
    | view inner =>
      cases holds
      exact inside
    | number | bool | text | token | list | range => cases holds
  · intro inside
    exact List.mem_filterMap.mpr ⟨_, inside, rfl⟩

theorem viewEntries_filter (keeps : String → Bool) :
    viewEntries (properties.filter fun property ↦ keeps property.1) =
      (viewEntries properties).filter fun entry ↦ keeps entry.1 := by
  rw [viewEntries, viewEntries, List.filterMap_filter, List.filter_filterMap]
  apply List.filterMap_congr
  intro property _
  by_cases kept : keeps property.1 = true
  · rw [if_pos kept]
    cases property.2.view? with
    | none => rfl
    | some view => exact (if_pos kept).symm
  · rw [if_neg kept]
    cases property.2.view? with
    | none => rfl
    | some view => exact (if_neg kept).symm

/-- A value put under a key takes the place of the view that is there; the other views stay. -/
theorem perm_viewEntries_setEntry (ordered : AreOrdered properties) :
    (viewEntries (setEntry key value properties)).Perm
      ((value.view?.map fun view ↦ (key, view)).toList ++
        (viewEntries properties).filter fun entry ↦ entry.1 != key) := by
  refine ((perm_setEntry ordered).filterMap _).trans (.of_eq ?_)
  rw [← viewEntries_filter fun name ↦ name != key, viewEntries, List.filterMap_cons]
  cases value.view? with
  | none => rfl
  | some view => rfl

end Entries

namespace View

theorem view?_of_mem_viewEntries {view inner : View} {key : String}
    (ordered : AreOrdered view.properties) (member : (key, inner) ∈ viewEntries view.properties) :
    view.view? key = some inner := by
  rw [view?, property?, lookup_of_mem ordered (mem_viewEntries.mp member)]

/-- The views that stand directly in a view. -/
def inner (view : View) : List View :=
  view.children ++ (viewEntries view.properties).map Prod.snd ++
    view.modifiers.filterMap Modifier.view?

theorem weight_lt_of_mem_inner {view inside : View} (member : inside ∈ view.inner) :
    inside.weight < view.weight := by
  rcases List.mem_append.mp member with stored | carried
  · rcases List.mem_append.mp stored with child | held
    · exact weight_lt_of_mem_children child
    · obtain ⟨⟨key, _⟩, entry, rfl⟩ := List.mem_map.mp held
      exact weight_lt_of_mem_properties (mem_viewEntries.mp entry)
  · obtain ⟨⟨name, arguments⟩, modifier, carries⟩ := List.mem_filterMap.mp carried
    cases arguments with
    | content content =>
      cases carries
      exact weight_lt_of_mem_modifiers modifier
    | _ => cases carries

/-- A view and all views inside it, each as often as it occurs. -/
def subviews (view : View) : List View :=
  view :: view.inner.attach.flatMap fun inside ↦ inside.1.subviews
termination_by view.weight
decreasing_by exact weight_lt_of_mem_inner inside.2

theorem subviews_eq (view : View) : view.subviews = view :: view.inner.flatMap subviews := by
  rw [subviews, List.flatMap_subtype fun _ _ ↦ rfl, List.unattach_attach]

theorem inner_around (kind : Kind) (views : List View) : (around kind views).inner = views := by
  rw [inner, around, addChildren, ofKind, viewEntries]
  exact (List.append_nil _).trans (List.append_nil _)

theorem subviews_around (kind : Kind) (views : List View) :
    (around kind views).subviews = around kind views :: views.flatMap subviews := by
  rw [subviews_eq, inner_around]

/-- One view in place of several holds their subviews, with the container when there is one. -/
theorem flatMap_subviews_single? (container : Kind) (views : List View) :
    (single? container views).toList.flatMap subviews =
      (if 2 ≤ views.length then [around container views] else []) ++ views.flatMap subviews := by
  match views with
  | [] => rfl
  | [view] => rfl
  | first :: second :: others =>
    have several : 2 ≤ (first :: second :: others).length := Nat.le_add_left 2 others.length
    have grouped : single? container (first :: second :: others) =
      some (around container (first :: second :: others)) := rfl
    rw [if_pos several, grouped, Option.toList_some, List.flatMap_singleton, subviews_around]
    rfl

end View

end ViewPreview
