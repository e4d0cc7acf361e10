import ViewPreview.Proofs.Call.WellFormed
import ViewPreview.Proofs.View.Subviews

/-!
# What Closures Attach

Every view of a closure ends up in the view that is built, once: among its children, in a group that
is one of its children, or under the key of a property, in a group when there are several.  The one
thing that loses views is a property that is set twice, so no two closures may put views under the
same key.  Closures that are actions add nothing.
-/

namespace ViewPreview.Call

variable {kind : Kind} {arguments : Arguments} {closure : Closure} {closures : List Closure}
  {view : View} {key : String}

/-! ## What one closure contributes -/

/-- The views that a closure is there to contribute: all of them, unless it is an action. -/
def Closure.given (closure : Closure) : List View :=
  if closure.role = .ignore then [] else closure.views

/-- The children that a closure adds to a view of a kind. -/
def Closure.children (kind : Kind) (closure : Closure) : List View :=
  match closure.role with
  | .content =>
    if kind = .navigationSplitView then [View.around .group closure.views] else closure.views
  | .label => if (labelKey? kind closure.label).isSome then [] else closure.views
  | .rowTemplate | .destination | .ignore => []

/-- The property with which a closure stores its views in a view of a kind. -/
def Closure.entry? (kind : Kind) (closure : Closure) : Option (String × View) :=
  (closure.key? kind).bind fun key ↦
    (View.single? .group closure.views).map fun view ↦ (key, view)

/-- Whether a closure stores views under a key. -/
def Closure.isStoredAt (kind : Kind) (key : String) (closure : Closure) : Bool :=
  (closure.entry? kind).any fun entry ↦ entry.1 == key

/-- The group that a closure's views are put in: that of a column, or one around several views that
are stored under a key. -/
def Closure.groups (kind : Kind) (closure : Closure) : List View :=
  if closure.role = .content ∧ kind = .navigationSplitView ∨
      (closure.key? kind).isSome ∧ 2 ≤ closure.views.length then
    [View.around .group closure.views]
  else []

/-- Whether no two closures store views under the same key. -/
def AreApart (kind : Kind) (closures : List Closure) : Prop :=
  ((closures.filterMap (Closure.entry? kind)).map Prod.fst).Nodup

theorem mem_of_key? (found : closure.key? kind = some key) :
    key ∈ ["rowTemplate", "destination", "header", "footer", "icon", "label"] := by
  unfold Closure.key? at found
  split at found
  · cases found
    decide
  · cases found
    decide
  · exact List.mem_append_right ["rowTemplate", "destination"] (mem_of_labelKey? found)
  · cases found
  · cases found

theorem isStoredAt_iff :
    closure.isStoredAt kind key = true ↔ ∃ view, closure.entry? kind = some (key, view) := by
  rw [Closure.isStoredAt, Option.any_eq_true]
  constructor
  · rintro ⟨⟨_, view⟩, found, same⟩
    exact ⟨view, beq_iff_eq.mp same ▸ found⟩
  · rintro ⟨view, found⟩
    exact ⟨_, found, beq_self_eq_true key⟩

theorem filterMap_entry?_cons (kind : Kind) (closure : Closure) (closures : List Closure) :
    (closure :: closures).filterMap (Closure.entry? kind) =
      (closure.entry? kind).toList ++ closures.filterMap (Closure.entry? kind) := by
  rw [List.filterMap_eq_flatMap_toList, List.flatMap_cons, ← List.filterMap_eq_flatMap_toList]

/-- The first of several closures stores its views under a key that no other one uses. -/
theorem AreApart.of_cons (apart : AreApart kind (closure :: closures)) :
    AreApart kind closures ∧ ∀ entry, closure.entry? kind = some entry →
      ∀ other ∈ closures, ¬other.isStoredAt kind entry.1 = true := by
  rw [AreApart, filterMap_entry?_cons, List.map_append] at apart
  obtain ⟨-, others, different⟩ := List.nodup_append.mp apart
  refine ⟨others, fun entry found other inside stored ↦ ?_⟩
  obtain ⟨view, there⟩ := isStoredAt_iff.mp stored
  have here := List.mem_map_of_mem (f := Prod.fst) (Option.mem_toList.mpr found)
  have behind := List.mem_map_of_mem (f := Prod.fst) (List.mem_filterMap.mpr ⟨other, inside, there⟩)
  exact different _ here _ behind rfl

theorem single?_of_ne_nil (container : Kind) {views : List View} (nonempty : views ≠ []) :
    ∃ grouped, View.single? container views = some grouped := by
  match views with
  | [] => exact absurd rfl nonempty
  | [view] => exact ⟨view, rfl⟩
  | _ :: _ :: _ => exact ⟨_, rfl⟩

/-- A closure that has a key adds no children and is no action. -/
theorem children_of_key? (found : closure.key? kind = some key) :
    closure.children kind = [] ∧ closure.given = closure.views := by
  unfold Closure.key? at found
  unfold Closure.children Closure.given
  cases role : closure.role with
  | rowTemplate | destination => exact ⟨rfl, rfl⟩
  | label =>
    rw [role] at found
    dsimp only at found ⊢
    rw [found]
    exact ⟨rfl, rfl⟩
  | content | ignore =>
    rw [role] at found
    cases found

/-- What a closure contributes are its views, with the group around them if they are put in one. -/
theorem flatMap_subviews_closure (kind : Kind) (closure : Closure) :
    (closure.children kind ++ (closure.entry? kind).toList.map Prod.snd).flatMap View.subviews =
      closure.groups kind ++ closure.given.flatMap View.subviews := by
  unfold Closure.groups Closure.entry?
  cases hasKey : closure.key? kind with
  | some key =>
    obtain ⟨noChildren, given⟩ := children_of_key? hasKey
    have stored : ((some key).bind fun key ↦ (View.single? .group closure.views).map
        fun view ↦ (key, view)).toList.map Prod.snd =
          (View.single? .group closure.views).toList := by
      cases View.single? .group closure.views with
      | none => rfl
      | some view => rfl
    have noColumn : closure.role ≠ .content := by
      intro role
      rw [Closure.key?, role] at hasKey
      cases hasKey
    rw [noChildren, given, stored, List.nil_append, View.flatMap_subviews_single?]
    simp [noColumn]
  | none =>
    unfold Closure.children Closure.given
    cases role : closure.role with
    | content =>
      by_cases split : kind = .navigationSplitView
      · simp [split, View.subviews_around]
      · simp [split]
    | label =>
      rw [Closure.key?, role] at hasKey
      dsimp only at hasKey
      simp [hasKey]
    | ignore => simp
    | rowTemplate | destination =>
      rw [Closure.key?, role] at hasKey
      cases hasKey

/-! ## Properties that are set -/

theorem setProperties_eq (view : View) (properties : List OptionalProperty) :
    ∃ entries, setProperties view properties = { view with properties := entries } := by
  induction properties generalizing view with
  | nil =>
    cases view
    exact ⟨_, rfl⟩
  | cons property properties ih =>
    obtain ⟨key, value⟩ := property
    cases value with
    | none => exact ih view
    | some value => exact ih (view.set key value)

theorem areOrdered_set? (ordered : AreOrdered view.properties)
    (value : Option (PropertyValue View)) : AreOrdered (view.set? key value).properties := by
  cases value with
  | none => exact ordered
  | some value => exact areOrdered_setEntry ordered

theorem areOrdered_setProperties (ordered : AreOrdered view.properties)
    (properties : List OptionalProperty) :
    AreOrdered (setProperties view properties).properties := by
  induction properties generalizing view with
  | nil => exact ordered
  | cons property properties ih => exact ih (areOrdered_set? ordered property.2)

/-- A property that is given no value stays what it was. -/
theorem property?_setProperties {properties : List OptionalProperty}
    (unset : ∀ property ∈ properties, property.1 = key → property.2 = none) (view : View) :
    (setProperties view properties).property? key = view.property? key := by
  induction properties generalizing view with
  | nil => rfl
  | cons property properties ih =>
    obtain ⟨name, value⟩ := property
    obtain ⟨first, unset⟩ := List.forall_mem_cons.mp unset
    refine (ih unset (view.set? name value)).trans ?_
    cases value with
    | none => rfl
    | some value =>
      refine lookup_setEntry_of_ne fun same ↦ ?_
      cases first same.symm

/-! ## One closure at a time -/

/-- The property with which a closure stores its views, if it has a key; without views there is
nothing to set. -/
def Closure.stored (kind : Kind) (closure : Closure) : List OptionalProperty :=
  ((closure.key? kind).map fun key ↦
    (key, (View.single? .group closure.views).map PropertyValue.view)).toList

/-- The property with which a row template stores the name of its parameter. -/
def Closure.named (closure : Closure) : List OptionalProperty :=
  if closure.role = .rowTemplate then [("rowVariable", closure.parameter.map .text)] else []

/-- A closure sets its properties and adds its children, and does nothing else. -/
theorem attach_eq (view : View) (closure : Closure) :
    attach view closure =
      (setProperties view (closure.named ++ closure.stored view.kind)).addChildren
        (closure.children view.kind) := by
  have nothing (view : View) : view.addChildren [] = view := by
    cases view
    exact congrArg (View.mk _ _ _) (List.append_nil _)
  unfold attach Closure.named Closure.stored Closure.children Closure.key?
  cases closure.role with
  | ignore => exact (nothing view).symm
  | content =>
    dsimp only
    split
    · rfl
    · rfl
  | rowTemplate | destination => exact (nothing _).symm
  | label =>
    dsimp only
    cases labelKey? view.kind closure.label with
    | none => rfl
    | some key => exact (nothing _).symm

theorem kind_attach (view : View) (closure : Closure) : (attach view closure).kind = view.kind := by
  obtain ⟨entries, same⟩ := setProperties_eq view (closure.named ++ closure.stored view.kind)
  rw [attach_eq, same]
  rfl

theorem children_attach (view : View) (closure : Closure) :
    (attach view closure).children = view.children ++ closure.children view.kind := by
  obtain ⟨entries, same⟩ := setProperties_eq view (closure.named ++ closure.stored view.kind)
  rw [attach_eq, same]
  rfl

theorem properties_attach (view : View) (closure : Closure) :
    (attach view closure).properties =
      (setProperties (setProperties view closure.named) (closure.stored view.kind)).properties := by
  rw [attach_eq, setProperties, List.foldl_append]
  rfl

theorem attach_of_ignore (action : closure.role = .ignore) (view : View) :
    attach view closure = view := by
  rw [attach, action]

/-- A closure leaves the properties that it does not set. -/
theorem property?_attach (noParameter : key ≠ "rowVariable")
    (other : closure.key? view.kind ≠ some key) :
    (attach view closure).property? key = view.property? key := by
  rw [View.property?, properties_attach]
  refine (property?_setProperties ?_ _).trans (property?_setProperties ?_ view)
  · intro property member
    obtain ⟨name, hasKey, rfl⟩ := Option.map_eq_some_iff.mp (Option.mem_toList.mp member)
    exact fun same ↦ absurd (same ▸ hasKey) other
  · intro property member
    unfold Closure.named at member
    split at member
    · rw [List.mem_singleton.mp member]
      exact fun same ↦ absurd same.symm noParameter
    · exact absurd member List.not_mem_nil

/-- Whether a view's properties are in order, with no view where a parameter is stored. -/
structure IsOpen (view : View) : Prop where
  ordered : AreOrdered view.properties
  noParameter : ∀ entry ∈ viewEntries view.properties, entry.1 ≠ "rowVariable"

/-- The name of a parameter is put where there is no view. -/
theorem perm_viewEntries_named (isOpen : IsOpen view) (closure : Closure) :
    (viewEntries (setProperties view closure.named).properties).Perm
      (viewEntries view.properties) := by
  unfold Closure.named
  split
  · cases closure.parameter with
    | none => exact .refl _
    | some parameter =>
      refine (perm_viewEntries_setEntry isOpen.ordered).trans (.of_eq ?_)
      exact List.filter_eq_self.mpr fun entry member ↦
        bne_iff_ne.mpr (isOpen.noParameter entry member)
  · exact .refl _

theorem perm_viewEntries_stored (ordered : AreOrdered view.properties) (kind : Kind)
    (closure : Closure) :
    (viewEntries (setProperties view (closure.stored kind)).properties).Perm
      ((closure.entry? kind).toList ++
        (viewEntries view.properties).filter fun entry ↦ !closure.isStoredAt kind entry.1) := by
  unfold Closure.stored Closure.isStoredAt Closure.entry?
  cases closure.key? kind with
  | none => exact .of_eq (List.filter_eq_self.mpr fun _ _ ↦ rfl).symm
  | some key =>
    cases View.single? .group closure.views with
    | none => exact .of_eq (List.filter_eq_self.mpr fun _ _ ↦ rfl).symm
    | some grouped =>
      refine (perm_viewEntries_setEntry ordered).trans (.of_eq ?_)
      refine congrArg ((key, grouped) :: ·) (List.filter_congr fun entry _ ↦ ?_)
      exact congrArg Bool.not Bool.beq_comm

/-- A closure that stores views puts them where others with its key were; the other views among the
properties stay. -/
theorem perm_viewEntries_attach (isOpen : IsOpen view) (closure : Closure) :
    (viewEntries (attach view closure).properties).Perm
      ((closure.entry? view.kind).toList ++
        (viewEntries view.properties).filter fun entry ↦
          !closure.isStoredAt view.kind entry.1) := by
  rw [properties_attach]
  refine (perm_viewEntries_stored (areOrdered_setProperties isOpen.ordered _) _ _).trans ?_
  exact ((perm_viewEntries_named isOpen closure).filter _).append_left _

theorem key_mem_of_entry? {entry : String × View} (found : closure.entry? kind = some entry) :
    entry.1 ∈ ["rowTemplate", "destination", "header", "footer", "icon", "label"] := by
  obtain ⟨key, hasKey, single⟩ := Option.bind_eq_some_iff.mp found
  obtain ⟨grouped, -, rfl⟩ := Option.map_eq_some_iff.mp single
  exact mem_of_key? hasKey

theorem IsOpen.attach (isOpen : IsOpen view) (closure : Closure) :
    IsOpen (attach view closure) where
  ordered := by
    rw [properties_attach]
    exact areOrdered_setProperties (areOrdered_setProperties isOpen.ordered _) _
  noParameter entry member := by
    rcases List.mem_append.mp ((perm_viewEntries_attach isOpen closure).mem_iff.mp member) with
      stored | before
    · have known := key_mem_of_entry? (Option.mem_toList.mp stored)
      rintro same
      rw [same] at known
      exact absurd known (by decide)
    · exact isOpen.noParameter entry (List.mem_filter.mp before).1

/-! ## All closures -/

/-- The children of all closures stand in the order of the closures. -/
theorem children_attachAll (closures : List Closure) (view : View) :
    (closures.foldl attach view).children =
      view.children ++ closures.flatMap (Closure.children view.kind) := by
  induction closures generalizing view with
  | nil => exact (List.append_nil _).symm
  | cons closure closures ih =>
    rw [List.foldl_cons, ih, kind_attach, children_attach, List.append_assoc, List.flatMap_cons]

theorem property?_attachAll (noParameter : key ≠ "rowVariable")
    (others : ∀ closure ∈ closures, closure.key? view.kind ≠ some key) :
    (closures.foldl attach view).property? key = view.property? key := by
  induction closures generalizing view with
  | nil => rfl
  | cons closure closures ih =>
    obtain ⟨other, others⟩ := List.forall_mem_cons.mp others
    rw [← kind_attach view closure] at others
    exact (ih others).trans (property?_attach noParameter other)

theorem attachAll_notIgnored (closures : List Closure) (view : View) :
    (closures.filter fun closure ↦ closure.role != .ignore).foldl attach view =
      closures.foldl attach view := by
  induction closures generalizing view with
  | nil => rfl
  | cons closure closures ih =>
    by_cases action : closure.role = .ignore
    · rw [List.filter_cons, if_neg (by rw [action]; decide), List.foldl_cons,
        attach_of_ignore action, ih]
    · rw [List.filter_cons, if_pos (bne_iff_ne.mpr action), List.foldl_cons, List.foldl_cons, ih]

theorem IsOpen.attachAll (isOpen : IsOpen view) (closures : List Closure) :
    IsOpen (closures.foldl Call.attach view) := by
  induction closures generalizing view with
  | nil => exact isOpen
  | cons closure closures ih => exact ih (isOpen.attach closure)

/-- Closures that store views under different keys store all of them; what stood under other keys
before stays. -/
theorem perm_viewEntries_attachAll (isOpen : IsOpen view) (apart : AreApart view.kind closures) :
    (viewEntries (closures.foldl attach view).properties).Perm
      (closures.filterMap (Closure.entry? view.kind) ++
        (viewEntries view.properties).filter fun entry ↦
          !closures.any fun closure ↦ closure.isStoredAt view.kind entry.1) := by
  induction closures generalizing view with
  | nil => exact .of_eq (List.filter_eq_self.mpr fun _ _ ↦ rfl).symm
  | cons closure closures ih =>
    obtain ⟨apart, different⟩ := apart.of_cons
    rw [← kind_attach view closure] at apart
    refine (ih (isOpen.attach closure) apart).trans ?_
    rw [kind_attach]
    refine (((perm_viewEntries_attach isOpen closure).filter _).append_left _).trans ?_
    have kept : (closure.entry? view.kind).toList.filter (fun entry ↦
        !closures.any fun closure ↦ closure.isStoredAt view.kind entry.1) =
          (closure.entry? view.kind).toList := by
      refine List.filter_eq_self.mpr fun entry member ↦ ?_
      rw [Bool.not_eq_true', List.any_eq_false]
      exact different entry (Option.mem_toList.mp member)
    have both : (viewEntries view.properties).filter (fun entry ↦
        (!closures.any fun closure ↦ closure.isStoredAt view.kind entry.1) &&
          !closure.isStoredAt view.kind entry.1) =
        (viewEntries view.properties).filter fun entry ↦
          !(closure :: closures).any fun closure ↦ closure.isStoredAt view.kind entry.1 := by
      refine List.filter_congr fun entry _ ↦ ?_
      rw [List.any_cons, Bool.not_or, Bool.and_comm]
    rw [List.filter_append, kept, List.filter_filter, both, filterMap_entry?_cons,
      List.append_assoc]
    exact List.perm_append_comm_assoc _ _ _

/-! ## The view that is built -/

/-- The view that a navigation link is given as an argument. -/
def destinationArgument? (kind : Kind) (arguments : Arguments) : Option View :=
  if kind = .navigationLink then (arguments.labeled? "destination").bind Argument.view else none

/-- Arguments store no views, other than the destination of a navigation link. -/
theorem not_view_of_mem_argumentProperties (other : kind ≠ .navigationLink) :
    ∀ property ∈ argumentProperties kind arguments, ∀ held, property.2 ≠ some (.view held) := by
  cases kind
  case navigationLink => exact absurd rfl other
  case image =>
    refine List.forall_mem_singleton.mpr fun held same ↦ ?_
    unfold imageSource at same
    split at same
    · cases same
    · cases same
  case forEach =>
    refine List.forall_mem_singleton.mpr fun held same ↦ ?_
    have source : rowSource arguments = ((rowSource arguments).1, some (.view held)) :=
      Prod.ext rfl same
    rcases shape_of_rowSource source with ⟨-, range, made⟩ | ⟨-, items, made⟩
    · cases made
    · cases made
  all_goals
    simp [argumentProperties, levelProperties, gradientColors, textEntry, numberEntry, tokenEntry,
      -Option.map_bind]

/-- The view that the arguments of a constructor make. -/
def ofArguments (kind : Kind) (arguments : Arguments) : View :=
  setProperties (View.ofKind kind) (argumentProperties kind arguments)

theorem viewEntries_setProperties_eq_nil {properties : List OptionalProperty}
    (ordered : AreOrdered view.properties) (noViews : viewEntries view.properties = [])
    (noView : ∀ property ∈ properties, ∀ held, property.2 ≠ some (.view held)) :
    viewEntries (setProperties view properties).properties = [] := by
  induction properties generalizing view with
  | nil => exact noViews
  | cons property properties ih =>
    obtain ⟨key, value⟩ := property
    obtain ⟨notView, noView⟩ := List.forall_mem_cons.mp noView
    refine ih (areOrdered_set? ordered value) ?_ noView
    cases value with
    | none => exact noViews
    | some value =>
      apply List.Perm.eq_nil
      refine (perm_viewEntries_setEntry ordered).trans (.of_eq ?_)
      rw [noViews]
      cases value with
      | view held => exact absurd rfl (notView held)
      | number | bool | text | token | list | range => rfl

theorem areOrdered_ofKind (kind : Kind) : AreOrdered (View.ofKind kind).properties :=
  List.Pairwise.nil

theorem perm_viewEntries_ofArguments (kind : Kind) (arguments : Arguments) :
    (viewEntries (ofArguments kind arguments).properties).Perm
      ((destinationArgument? kind arguments).toList.map (("destination", ·))) := by
  unfold destinationArgument?
  split
  · next same =>
    subst same
    let titled := setProperties (View.ofKind .navigationLink)
      [textEntry "title" arguments.firstString?]
    have ordered : AreOrdered titled.properties := areOrdered_setProperties (areOrdered_ofKind _) _
    have noViews : viewEntries titled.properties = [] := by
      refine viewEntries_setProperties_eq_nil (areOrdered_ofKind _) rfl ?_
      refine List.forall_mem_singleton.mpr fun held same ↦ ?_
      obtain ⟨_, -, made⟩ := Option.map_eq_some_iff.mp same
      cases made
    change (viewEntries (titled.set? "destination" _).properties).Perm _
    cases (arguments.labeled? "destination").bind Argument.view with
    | none => exact .of_eq noViews
    | some destination =>
      refine (perm_viewEntries_setEntry ordered).trans (.of_eq ?_)
      rw [noViews]
      rfl
  · next other =>
    refine .of_eq (viewEntries_setProperties_eq_nil (areOrdered_ofKind _) rfl ?_)
    exact not_view_of_mem_argumentProperties other

/-- The view that a navigation link is given as an argument, unless a closure takes its place. -/
def keptArgument (kind : Kind) (arguments : Arguments) (closures : List Closure) : List View :=
  if closures.any fun closure ↦ closure.isStoredAt kind "destination" then []
  else (destinationArgument? kind arguments).toList

theorem isOpen_ofArguments (kind : Kind) (arguments : Arguments) :
    IsOpen (ofArguments kind arguments) where
  ordered := areOrdered_setProperties (areOrdered_ofKind kind) _
  noParameter entry member := by
    have given := (perm_viewEntries_ofArguments kind arguments).mem_iff.mp member
    obtain ⟨destination, -, rfl⟩ := List.mem_map.mp given
    exact (by decide : "destination" ≠ "rowVariable")

theorem kind_ofArguments (kind : Kind) (arguments : Arguments) :
    (ofArguments kind arguments).kind = kind := by
  obtain ⟨entries, same⟩ := setProperties_eq (View.ofKind kind) (argumentProperties kind arguments)
  rw [ofArguments, same]
  rfl

theorem children_build (kind : Kind) (arguments : Arguments) (closures : List Closure) :
    (build kind arguments closures).children = closures.flatMap (Closure.children kind) := by
  obtain ⟨entries, same⟩ := setProperties_eq (View.ofKind kind) (argumentProperties kind arguments)
  rw [build, children_attachAll, same]
  rfl

theorem perm_viewEntries_build (apart : AreApart kind closures) :
    (viewEntries (build kind arguments closures).properties).Perm
      (closures.filterMap (Closure.entry? kind) ++
        (keptArgument kind arguments closures).map (("destination", ·))) := by
  have stored := perm_viewEntries_attachAll (isOpen_ofArguments kind arguments)
    ((kind_ofArguments kind arguments).symm ▸ apart)
  rw [kind_ofArguments] at stored
  refine stored.trans (.append_left _ ?_)
  refine ((perm_viewEntries_ofArguments kind arguments).filter _).trans (.of_eq ?_)
  unfold keptArgument
  cases destinationArgument? kind arguments with
  | none => split <;> rfl
  | some destination =>
    split
    · next taken => exact List.filter_eq_nil_iff.mpr (by simpa using taken)
    · next free => exact List.filter_eq_self.mpr (by simpa using free)

/-- What stands directly in the view that is built: what each closure contributes, and the argument
that is left. -/
theorem perm_inner_build (apart : AreApart kind closures) :
    (build kind arguments closures).inner.Perm
      (closures.flatMap (fun closure ↦
          closure.children kind ++ (closure.entry? kind).toList.map Prod.snd) ++
        keptArgument kind arguments closures) := by
  have noModifiers : (build kind arguments closures).modifiers = [] :=
    (IsMadeOf.build kind arguments closures).modifiers_eq
  have entries : (closures.filterMap (Closure.entry? kind)).map Prod.snd =
      closures.flatMap fun closure ↦ (closure.entry? kind).toList.map Prod.snd := by
    rw [List.filterMap_eq_flatMap_toList, List.map_flatMap]
  have views : ((keptArgument kind arguments closures).map (("destination", ·))).map Prod.snd =
      keptArgument kind arguments closures := by
    rw [List.map_map]
    exact List.map_id _
  rw [View.inner, children_build, noModifiers, List.filterMap_nil, List.append_nil]
  refine (((perm_viewEntries_build apart).map Prod.snd).append_left _).trans ?_
  rw [List.map_append, views, entries, ← List.append_assoc]
  exact (List.flatMap_append_perm _ _ _).append_right _

/-- Where the views of a closure stand in a view: among its children, one behind the other; in a
group that is one of its children; or under the key of a property, in a group when there are
several. -/
inductive Closure.IsPlacedIn (view : View) (closure : Closure) : Prop
  | children (inside : closure.views <:+: view.children)
  | column (member : View.around .group closure.views ∈ view.children)
  | property {key : String} (hasKey : closure.key? view.kind = some key)
      (held : view.view? key = View.single? .group closure.views)

theorem isPlacedIn_build (apart : AreApart kind closures) (member : closure ∈ closures)
    (noAction : closure.role ≠ .ignore) (nonempty : closure.views ≠ []) :
    closure.IsPlacedIn (build kind arguments closures) := by
  have made := IsMadeOf.build kind arguments closures
  have inside {views : List View} (same : closure.children kind = views) :
      views <:+: (build kind arguments closures).children := by
    obtain ⟨before, after, rfl⟩ := List.append_of_mem member
    rw [children_build, List.flatMap_append, List.flatMap_cons, same]
    exact ⟨_, _, List.append_assoc _ _ _⟩
  cases hasKey : closure.key? kind with
  | some key =>
    obtain ⟨grouped, single⟩ := single?_of_ne_nil .group nonempty
    have entry : closure.entry? kind = some (key, grouped) := by
      rw [Closure.entry?, hasKey, single]
      rfl
    refine .property (made.kind_eq.symm ▸ hasKey) ?_
    rw [single]
    apply View.view?_of_mem_viewEntries
      ((isOpen_ofArguments kind arguments).attachAll closures).ordered
    apply (perm_viewEntries_build apart).mem_iff.mpr
    exact List.mem_append_left _ (List.mem_filterMap.mpr ⟨closure, member, entry⟩)
  | none =>
    cases role : closure.role with
    | content =>
      by_cases column : kind = .navigationSplitView
      · have same : closure.children kind = [View.around .group closure.views] := by
          rw [Closure.children, role]
          exact if_pos column
        exact .column ((inside same).subset (List.mem_singleton_self _))
      · apply Closure.IsPlacedIn.children
        apply inside
        rw [Closure.children, role]
        exact if_neg column
    | label =>
      apply Closure.IsPlacedIn.children
      apply inside
      rw [Closure.key?, role] at hasKey
      dsimp only at hasKey
      rw [Closure.children, role]
      dsimp only
      rw [hasKey]
      rfl
    | ignore => exact absurd role noAction
    | rowTemplate | destination =>
      rw [Closure.key?, role] at hasKey
      cases hasKey

/-- No view that a closure is there to contribute is lost or doubled.  Where the closures store
their views under different keys, the views of each one stand in the view that is built, in their
order.  The views inside it are those of the closures, the groups they are put in, and what is left
of the arguments, each as often as it is given.  The children stand in the order of the closures.  A
closure that is an action makes no difference. -/
theorem views_kept_by_build (kind : Kind) (arguments : Arguments) (closures : List Closure)
    (apart : AreApart kind closures) :
    let view := build kind arguments closures
    (∀ closure ∈ closures, closure.role ≠ .ignore → closure.views ≠ [] →
        closure.IsPlacedIn view) ∧
      (view.inner.flatMap View.subviews).Perm
        ((closures.flatMap Closure.given).flatMap View.subviews ++
          closures.flatMap (Closure.groups kind) ++
          (keptArgument kind arguments closures).flatMap View.subviews) ∧
      view.children = closures.flatMap (Closure.children kind) ∧
      build kind arguments (closures.filter fun closure ↦ closure.role != .ignore) = view := by
  refine ⟨fun closure member ↦ isPlacedIn_build apart member, ?_,
    children_build kind arguments closures, attachAll_notIgnored closures _⟩
  refine ((perm_inner_build apart).flatMap_right View.subviews).trans ?_
  rw [List.flatMap_append, List.flatMap_assoc,
    List.flatMap_congr fun closure _ ↦ flatMap_subviews_closure kind closure, List.flatMap_assoc]
  refine .append_right _ ?_
  exact (List.flatMap_append_perm _ _ _).symm.trans List.perm_append_comm

/-- A section with a header, two rows, a footer of two views and an action. -/
def sectionClosures : List Closure :=
  [⟨.label, some "header", none, [View.ofText "Fruit"]⟩,
    ⟨.content, none, none, [View.ofText "Apple", View.ofText "Pear"]⟩,
    ⟨.ignore, some "action", none, [View.ofText "Pick"]⟩,
    ⟨.label, some "footer", none, [View.ofText "2", View.ofText "kinds"]⟩]

theorem views_kept_by_build_section :
    AreApart .listSection sectionClosures ∧
      (build .listSection {} sectionClosures).children =
        [View.ofText "Apple", View.ofText "Pear"] ∧
      ((build .listSection {} sectionClosures).inner.flatMap View.subviews).Perm
        ([View.ofText "Fruit", View.ofText "Apple", View.ofText "Pear", View.ofText "2",
            View.ofText "kinds"].flatMap View.subviews ++
          [View.around .group [View.ofText "2", View.ofText "kinds"]]) := by
  have apart : AreApart .listSection sectionClosures :=
    (by decide : ["header", "footer"].Nodup)
  have kept := views_kept_by_build .listSection {} sectionClosures apart
  refine ⟨apart, kept.2.2.1, kept.2.1.trans (.of_eq ?_)⟩
  exact List.append_nil _

end ViewPreview.Call
