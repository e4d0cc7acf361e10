import ViewPreview.Proofs.Style.Declared
import ViewPreview.Proofs.Style.Properties
import Mathlib.Data.List.Nodup

/-!
# Filters in Effect

Six modifiers set a filter function each.  A modifier that sets a function puts it behind those that
are in effect and takes the earlier one of its name away, so that what remains are the functions of
the modifiers that no later one of their name follows, in the order of these modifiers.  All of them
are written as one declaration behind all others, and none of the modifiers declares anything
itself.  But a group without modifiers leaves its content where it is, and a filter, like any other
modifier, makes a box of it.
-/

namespace ViewPreview

/-- The filter function that modifiers of a name set. -/
def filterName? (name : String) : Option String :=
  match name with
  | "hueRotation" => some "hue-rotate"
  | "blur" => some "blur"
  | "brightness" => some "brightness"
  | "contrast" => some "contrast"
  | "saturation" => some "saturate"
  | "grayscale" => some "grayscale"
  | _ => none

/-- Whether a view is a group that neither a modifier nor a placeholder makes a box of. -/
def View.IsBareGroup (view : View) : Prop :=
  (view.kind = .group ∨ view.kind = .forEach) ∧ view.modifiers = [] ∧
    view.property? "placeholder" = none

namespace Style

open InlineStyle (pixels)

/-- The modifiers of a chain that set a filter which no later modifier of their name replaces. -/
def decidingModifiers : List (Modifier View) → List (Modifier View)
  | [] => []
  | modifier :: later =>
    if (modifierFilter? modifier).isSome ∧
        ∀ other ∈ later, other.name = modifier.name → modifierFilter? other = none then
      modifier :: decidingModifiers later
    else decidingModifiers later

/-! ## Names -/

section Names

variable {modifier other : Modifier View} {filter otherFilter : Filter}

/-- No two names of modifiers set the same function. -/
theorem eq_of_filterName? {name other function : String} (named : filterName? name = some function)
    (otherNamed : filterName? other = some function) : name = other := by
  unfold filterName? at named otherNamed
  split at named <;> cases named <;> split at otherNamed <;> simp_all

theorem filterName?_of_modifierFilter? (found : modifierFilter? modifier = some filter) :
    filterName? modifier.name = some filter.name := by
  unfold modifierFilter? at found
  split at found
  case h_7 => cases found
  all_goals
    next named _ =>
      rw [← Option.some.inj found, named]
      rfl

/-- Two filters have one name exactly when the modifiers that set them do. -/
theorem name_eq_iff_of_modifierFilter? (found : modifierFilter? modifier = some filter)
    (otherFound : modifierFilter? other = some otherFilter) :
    otherFilter.name = filter.name ↔ other.name = modifier.name := by
  have named := filterName?_of_modifierFilter? found
  have otherNamed := filterName?_of_modifierFilter? otherFound
  constructor
  · intro same
    exact eq_of_filterName? (same ▸ otherNamed) named
  · intro same
    rw [same] at otherNamed
    exact Option.some.inj (otherNamed.symm.trans named)

/-- The name of a filter ends where its argument begins. -/
theorem takeWhile_write (found : modifierFilter? modifier = some filter) :
    filter.write.toList.takeWhile (· != '(') = filter.name.toList := by
  have ends {name : String} (argument : String) (closed : name.toList.all (· != '(') = true) :
      (Filter.write ⟨name, argument⟩).toList.takeWhile (· != '(') = name.toList := by
    rw [Filter.write, String.toList_append, String.toList_append, String.toList_append,
      List.append_assoc, List.append_assoc,
      List.takeWhile_append_of_pos (List.all_eq_true.mp closed)]
    exact List.append_nil _
  unfold modifierFilter? at found
  split at found
  case h_7 => cases found
  all_goals
    rw [← Option.some.inj found]
    exact ends _ (by decide)

/-- A modifier of such a name declares nothing. -/
theorem modifierDeclarations_of_filterName? (kind : Kind) (options : RenderOptions)
    (named : (filterName? modifier.name).isSome) :
    modifierDeclarations kind options modifier = [] := by
  obtain ⟨name, arguments⟩ := modifier
  dsimp only at named
  unfold filterName? at named
  split at named
  case h_7 => cases named
  all_goals
    cases arguments with
    | _ => rfl

end Names

/-! ## Chains -/

/-- A filter that is put into effect stays exactly when no later modifier of its name sets one. -/
theorem name_notMem_iff {modifier : Modifier View} {filter : Filter}
    (found : modifierFilter? modifier = some filter) (later : List (Modifier View)) :
    filter.name ∉ (later.filterMap modifierFilter?).map Filter.name ↔
      ∀ other ∈ later, other.name = modifier.name → modifierFilter? other = none := by
  constructor
  · intro absent other inLater same
    by_contra someFilter
    obtain ⟨otherFilter, otherFound⟩ := Option.ne_none_iff_exists'.mp someFilter
    refine absent (List.mem_map.mpr ⟨otherFilter, ?_, ?_⟩)
    · exact List.mem_filterMap.mpr ⟨other, inLater, otherFound⟩
    · exact (name_eq_iff_of_modifierFilter? found otherFound).mpr same
  · intro last member
    obtain ⟨otherFilter, inFilters, same⟩ := List.mem_map.mp member
    obtain ⟨other, inLater, otherFound⟩ := List.mem_filterMap.mp inFilters
    have none := last other inLater ((name_eq_iff_of_modifierFilter? found otherFound).mp same)
    rw [none] at otherFound
    cases otherFound

/-- Putting filters into effect keeps the earlier ones of other names and adds the last ones of each
name. -/
theorem foldl_filters (modifiers : List (Modifier View)) (earlier : List Filter) :
    (modifiers.filterMap modifierFilter?).foldl (fun earlier filter ↦
      earlier.filter (fun existing ↦ existing.name != filter.name) ++ [filter]) earlier =
    earlier.filter (fun existing ↦
        existing.name ∉ (modifiers.filterMap modifierFilter?).map Filter.name) ++
      (decidingModifiers modifiers).filterMap modifierFilter? := by
  induction modifiers generalizing earlier with
  | nil => simp [decidingModifiers]
  | cons modifier later ih =>
    cases found : modifierFilter? modifier with
    | none =>
      rw [List.filterMap_cons_none found, ih, decidingModifiers, found]
      rfl
    | some filter =>
      rw [List.filterMap_cons_some found, List.foldl_cons, ih, List.filter_append,
        List.filter_filter, List.append_assoc]
      congr 1
      · refine List.filter_congr fun existing _ ↦ ?_
        rw [Bool.eq_iff_iff]
        simp [and_comm]
      · rw [decidingModifiers, found]
        by_cases last : ∀ other ∈ later, other.name = modifier.name → modifierFilter? other = none
        · rw [if_pos ⟨rfl, last⟩, List.filterMap_cons_some found, List.filter_cons,
            if_pos (decide_eq_true ((name_notMem_iff found later).mpr last))]
          rfl
        · have replaced := mt (name_notMem_iff found later).mp last
          rw [if_neg (not_and_of_not_right _ last), List.filter_cons,
            if_neg (by simpa using replaced)]
          rfl

theorem decidingModifiers_sublist (modifiers : List (Modifier View)) :
    (decidingModifiers modifiers).Sublist modifiers := by
  induction modifiers with
  | nil => exact List.Sublist.refl []
  | cons first later ih =>
    rw [decidingModifiers]
    split
    · exact ih.cons_cons first
    · exact ih.cons first

/-- The filters in effect are those of the deciding modifiers. -/
theorem filtersInEffect_eq (modifiers : List (Modifier View)) :
    filtersInEffect (modifiers.filterMap modifierFilter?) =
      (decidingModifiers modifiers).filterMap modifierFilter? :=
  foldl_filters modifiers []

/-- The deciding modifiers are those that set a filter and that no later one of their name which
sets one follows. -/
theorem mem_decidingModifiers_iff {modifier : Modifier View} {modifiers : List (Modifier View)} :
    modifier ∈ decidingModifiers modifiers ↔
      ∃ front back, modifiers = front ++ modifier :: back ∧ (modifierFilter? modifier).isSome ∧
        ∀ other ∈ back, other.name = modifier.name → modifierFilter? other = none := by
  induction modifiers with
  | nil => simp [decidingModifiers]
  | cons first later ih =>
    rw [decidingModifiers]
    constructor
    · intro member
      have ofLater (inLater : modifier ∈ decidingModifiers later) :
          ∃ front back, first :: later = front ++ modifier :: back ∧
            (modifierFilter? modifier).isSome ∧
            ∀ other ∈ back, other.name = modifier.name → modifierFilter? other = none := by
        obtain ⟨front, back, rfl, decides⟩ := ih.mp inLater
        exact ⟨first :: front, back, rfl, decides⟩
      split at member
      · next decides =>
        rcases List.mem_cons.mp member with rfl | inLater
        · exact ⟨[], later, rfl, decides⟩
        · exact ofLater inLater
      · exact ofLater member
    · rintro ⟨front, back, same, decides⟩
      cases front with
      | nil =>
        obtain ⟨rfl, rfl⟩ := List.cons.inj same
        rw [if_pos decides]
        exact List.mem_cons_self
      | cons head front =>
        have inLater := ih.mpr ⟨front, back, (List.cons.inj same).2, decides⟩
        split
        · exact List.mem_cons_of_mem first inLater
        · exact inLater

/-- The functions of deciding modifiers are of different names. -/
theorem nodup_name_decidingModifiers (modifiers : List (Modifier View)) :
    (((decidingModifiers modifiers).filterMap modifierFilter?).map Filter.name).Nodup := by
  induction modifiers with
  | nil => exact List.nodup_nil
  | cons first later ih =>
    rw [decidingModifiers]
    split
    · next decides =>
      obtain ⟨filter, found⟩ := Option.isSome_iff_exists.mp decides.1
      have last := (name_notMem_iff found later).mpr decides.2
      have fewer := ((decidingModifiers_sublist later).filterMap modifierFilter?).map Filter.name
      rw [List.filterMap_cons_some found, List.map_cons, List.nodup_cons]
      exact ⟨fun member ↦ last (fewer.subset member), ih⟩
    · exact ih

/-! ## Views -/

section Views

variable (view : View) (options : RenderOptions)

theorem filters_viewStyle : (viewStyle view options).filters =
    (decidingModifiers view.modifiers).filterMap modifierFilter? := by
  rw [viewStyle_eq]
  exact filtersInEffect_eq view.modifiers

/-- A bare group leaves its content where it is. -/
theorem kindDeclarations_of_isBareGroup (bare : view.IsBareGroup) :
    kindDeclarations view options = [("display", "contents")] := by
  obtain ⟨group, noModifiers, noPlaceholder⟩ := bare
  have isBare : (view.modifiers.isEmpty && (view.property? "placeholder").isNone) = true := by
    rw [noModifiers, noPlaceholder]
    rfl
  unfold kindDeclarations
  rcases group with isGroup | isForEach
  · rw [isGroup]
    exact if_pos isBare
  · rw [isForEach]
    exact if_pos isBare

theorem declarations_of_isBareGroup (bare : view.IsBareGroup) :
    (viewStyle view options).declarations = [⟨"display", "contents"⟩] := by
  rw [viewStyle_eq, kindDeclarations_of_isBareGroup view options bare, bare.2.1]
  rfl

/-- Any other group is a column. -/
theorem kindDeclarations_of_group (group : view.kind = .group ∨ view.kind = .forEach)
    (box : ¬view.IsBareGroup) :
    kindDeclarations view options =
      flexible "column" ++
        [("gap", pixels ((view.number? "spacing").getD options.defaultSpacing))] := by
  have isBox : ¬(view.modifiers.isEmpty && (view.property? "placeholder").isNone) = true := by
    intro isBare
    rw [Bool.and_eq_true, List.isEmpty_iff, Option.isNone_iff_eq_none] at isBare
    exact box ⟨group, isBare⟩
  unfold kindDeclarations
  rcases group with isGroup | isForEach
  · rw [isGroup]
    exact if_neg isBox
  · rw [isForEach]
    exact if_neg isBox

/-- Whatever the kind of a view declares does not depend on its modifiers, unless it is bare. -/
theorem kindDeclarations_withModifiers {modifiers : List (Modifier View)}
    (box : ¬view.IsBareGroup) (otherBox : ¬{ view with modifiers := modifiers }.IsBareGroup) :
    kindDeclarations { view with modifiers := modifiers } options =
      kindDeclarations view options := by
  by_cases group : view.kind = .group ∨ view.kind = .forEach
  · rw [kindDeclarations_of_group view options group box,
      kindDeclarations_of_group { view with modifiers := modifiers } options group otherBox]
    rfl
  · obtain ⟨kind, properties, others, children⟩ := view
    cases kind with
    | group => exact absurd (Or.inl rfl) group
    | forEach => exact absurd (Or.inr rfl) group
    | _ => rfl

/-- A modifier that is about a filter adds no declaration. -/
theorem declarations_of_filterName? {front back : List (Modifier View)} {modifier : Modifier View}
    (chain : view.modifiers = front ++ modifier :: back)
    (named : (filterName? modifier.name).isSome) :
    (viewStyle view options).declarations =
      (kindDeclarations view options ++
        (front ++ back).flatMap (modifierDeclarations view.kind options)).map
          fun entry ↦ ⟨entry.1, entry.2⟩ := by
  rw [viewStyle_eq, chain, List.flatMap_append, List.flatMap_cons,
    modifierDeclarations_of_filterName? view.kind options named, List.nil_append,
    List.flatMap_append]

/-- No declaration but that of the filters in effect is about filters. -/
theorem property_ne_filter {declaration : Declaration}
    (member : declaration ∈ (viewStyle view options).declarations) :
    declaration.property ≠ "filter" := by
  rw [viewStyle_eq] at member
  obtain ⟨entry, inEntries, rfl⟩ := List.mem_map.mp member
  have known : entry.1 ∈ "visibility" :: ordinaryProperties := by
    rcases List.mem_append.mp inEntries with ofKind | ofModifiers
    · exact List.mem_cons_of_mem _ (isOrdinary_kindDeclarations view options entry ofKind)
    · obtain ⟨modifier, -, ofModifier⟩ := List.mem_flatMap.mp ofModifiers
      exact property_mem_of_mem_modifierDeclarations ofModifier
  intro same
  have isFilter : entry.1 = "filter" := same
  rw [isFilter] at known
  exact absurd known (by decide)

end Views

/-- The style of a view is written as its declarations, none of which is about filters, and behind
them one declaration of the filters in effect if there are any.  These are what the deciding
modifiers set, in chain order: they are of different names, also as these are read off what is
written, and each is what the last modifier of a name that sets a filter sets it to.  No modifier
that is about a filter changes another declaration, but that it makes a column of a bare group. -/
theorem filters_unique (view : View) (options : RenderOptions) :
    let style := viewStyle view options
    let functions := (decidingModifiers view.modifiers).filterMap modifierFilter?
    style.text = "; ".intercalate
        ((style.declarations ++ filterDeclarations functions).map Declaration.write) ∧
    (∀ declaration ∈ style.declarations, declaration.property ≠ "filter") ∧
    (decidingModifiers view.modifiers).Sublist view.modifiers ∧
    (functions.map Filter.name).Nodup ∧
    (functions.map fun function ↦ function.write.toList.takeWhile (· != '(')).Nodup ∧
    (∀ modifier, modifier ∈ decidingModifiers view.modifiers ↔
      ∃ front back, view.modifiers = front ++ modifier :: back ∧
        (modifierFilter? modifier).isSome ∧
        ∀ other ∈ back, other.name = modifier.name → modifierFilter? other = none) ∧
    ∀ front modifier back, view.modifiers = front ++ modifier :: back →
      (filterName? modifier.name).isSome →
      let rest : View := { view with modifiers := front ++ back }
      (¬rest.IsBareGroup → style.declarations = (viewStyle rest options).declarations) ∧
      (rest.IsBareGroup →
        (viewStyle rest options).declarations = [⟨"display", "contents"⟩] ∧
        style.declarations = [⟨"display", "flex"⟩, ⟨"flex-direction", "column"⟩,
          ⟨"gap", pixels ((view.number? "spacing").getD options.defaultSpacing)⟩]) := by
  intro style functions
  have distinct : (functions.map Filter.name).Nodup := nodup_name_decidingModifiers view.modifiers
  refine ⟨?text, fun _ ↦ property_ne_filter view options, decidingModifiers_sublist view.modifiers,
    distinct, ?written, fun _ ↦ mem_decidingModifiers_iff, ?others⟩
  case text =>
    rw [show functions = style.filters from (filters_viewStyle view options).symm]
    rfl
  case written =>
    have names : functions.map (fun function ↦ function.write.toList.takeWhile (· != '(')) =
        (functions.map Filter.name).map String.toList := by
      rw [List.map_map]
      refine List.map_congr_left fun function member ↦ ?_
      obtain ⟨modifier, -, found⟩ := List.mem_filterMap.mp member
      exact takeWhile_write found
    rw [names]
    exact distinct.map fun _ _ same ↦ String.toList_inj.mp same
  case others =>
    intro front modifier back chain named rest
    have box : ¬view.IsBareGroup := by
      rintro ⟨-, noModifiers, -⟩
      rw [chain] at noModifiers
      exact List.append_ne_nil_of_right_ne_nil front (List.cons_ne_nil modifier back) noModifiers
    have declares := declarations_of_filterName? view options chain named
    constructor
    · intro otherBox
      refine declares.trans ?_
      rw [viewStyle_eq, kindDeclarations_withModifiers view options box otherBox]
    · intro bare
      have noOther : front ++ back = [] := bare.2.1
      constructor
      · exact declarations_of_isBareGroup rest options bare
      · refine declares.trans ?_
        rw [noOther, kindDeclarations_of_group view options bare.1 box]
        rfl

/-- A group of nothing that is blurred. -/
def blurredGroup : View :=
  { kind := .group, properties := [], modifiers := [⟨"blur", .number 2.0⟩], children := [] }

/-- The filter of the group changes how it is displayed. -/
theorem blurredGroup_displays_column :
    (viewStyle blurredGroup {}).text =
        "display: flex; flex-direction: column; gap: 8px; filter: blur(2px)" ∧
      (viewStyle { blurredGroup with modifiers := [] } {}).text = "display: contents" := by
  decide +kernel

end Style
end ViewPreview
