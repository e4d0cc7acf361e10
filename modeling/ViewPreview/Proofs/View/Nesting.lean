import ViewPreview.Proofs.Text.Occurrence
import ViewPreview.Proofs.View.Names

/-!
# Repetitions Inside Repetitions

A path leads from a view to one inside it, through children, properties and the contents of
modifiers.  Substitution in texts commutes with following a path, so a repetition inside the
template of another one is found at the same place in every row, with its own values untouched.
Substitution goes by the name of a variable and not by its scope: where both repetitions use one
name, the value of the outer row takes the place of the inner variable.
-/

namespace ViewPreview

open ViewPreview.Text (occursIn replaceString replaceString_eq_self occursIn_eq_false_of_length_lt)

/-! ## Paths -/

/-- A step from a view to one directly inside it. -/
inductive View.Step where
  | child (index : Nat)
  | property (key : String)
  | content (index : Nat)
deriving Repr, DecidableEq

/-- The view that a modifier carries. -/
def Modifier.view? (modifier : Modifier View) : Option View :=
  match modifier.arguments with
  | .content content => some content.view
  | _ => none

namespace View

/-- The view that a step leads to. -/
def step? (view : View) : Step → Option View
  | .child index => view.children[index]?
  | .property key => view.view? key
  | .content index => view.modifiers[index]?.bind Modifier.view?

/-- The view at the end of a path. -/
def at? (view : View) : (path : List Step) → Option View
  | [] => some view
  | step :: path => (view.step? step).bind fun inner ↦ inner.at? path

end View

/-! ## Properties after substitution -/

section Properties

variable (f : String → String) (view : View) (key : String)

theorem View.property?_mapTexts :
    (view.mapTexts f).property? key = (view.property? key).map (mapTextsValue f) := by
  have mapped (properties : List (String × PropertyValue View)) :
      (properties.map (mapTextsProperty f)).lookup key =
        (properties.lookup key).map (mapTextsValue f) := by
    induction properties with
    | nil => rfl
    | cons property properties ih =>
      obtain ⟨other, value⟩ := property
      rw [List.map_cons, mapTextsProperty, List.lookup_cons, List.lookup_cons, ih]
      split
      · rfl
      · rfl
  rw [View.property?, View.mapTexts_eq]
  exact mapped view.properties

theorem View.view?_mapTexts :
    (view.mapTexts f).view? key = (view.view? key).map (View.mapTexts f) := by
  rw [View.view?, View.view?, View.property?_mapTexts]
  cases view.property? key with
  | none => rfl
  | some value =>
    cases value
    all_goals rfl

theorem View.range?_mapTexts : (view.mapTexts f).range? key = view.range? key := by
  rw [View.range?, View.range?, View.property?_mapTexts]
  cases view.property? key with
  | none => rfl
  | some value =>
    cases value
    all_goals rfl

theorem View.list?_mapTexts : (view.mapTexts f).list? key = view.list? key := by
  rw [View.list?, View.list?, View.property?_mapTexts]
  cases view.property? key with
  | none => rfl
  | some value =>
    cases value
    all_goals rfl

/-- A string that substitution leaves as it is stays what it was. -/
theorem View.string?_mapTexts {text : String} (found : view.string? key = some text)
    (kept : f text = text) : (view.mapTexts f).string? key = some text := by
  rw [View.string?] at found ⊢
  rw [View.property?_mapTexts]
  cases held : view.property? key with
  | none =>
    rw [held] at found
    cases found
  | some value =>
    rw [held] at found
    cases value with
    | text written =>
      cases found
      exact congrArg some kept
    | token written =>
      cases found
      rfl
    | number => cases found
    | bool => cases found
    | list => cases found
    | range => cases found
    | view => cases found

theorem View.kind_mapTexts : (view.mapTexts f).kind = view.kind := by
  rw [View.mapTexts_eq]

/-- Substitution changes no value that a repetition runs over. -/
theorem View.rowValues_mapTexts (maxRepeat : Nat) :
    (view.mapTexts f).rowValues maxRepeat = view.rowValues maxRepeat := by
  rw [View.rowValues, View.rowValues, View.range?_mapTexts, View.list?_mapTexts]

end Properties

/-! ## Paths after substitution -/

theorem Modifier.view?_mapTexts (f : String → String) (modifier : Modifier View) :
    (mapTextsModifier f modifier).view? = modifier.view?.map (View.mapTexts f) := by
  obtain ⟨name, arguments⟩ := modifier
  cases arguments with
  | content content =>
    obtain ⟨view, alignment⟩ := content
    rfl
  | _ => rfl

theorem View.step?_mapTexts (f : String → String) (view : View) (step : Step) :
    (view.mapTexts f).step? step = (view.step? step).map (View.mapTexts f) := by
  cases step with
  | child index =>
    rw [step?, step?, View.mapTexts_eq]
    exact List.getElem?_map
  | property key => exact View.view?_mapTexts f view key
  | content index =>
    rw [step?, step?, View.mapTexts_eq]
    simp only [List.getElem?_map]
    cases view.modifiers[index]? with
    | none => rfl
    | some modifier => exact Modifier.view?_mapTexts f modifier

/-- The view at the end of a path after substitution is the one that was there, after
substitution. -/
theorem View.at?_mapTexts (f : String → String) (view : View) (path : List Step) :
    (view.mapTexts f).at? path = (view.at? path).map (View.mapTexts f) := by
  induction path generalizing view with
  | nil => rfl
  | cons step path ih =>
    rw [at?, at?, View.step?_mapTexts]
    cases view.step? step with
    | none => rfl
    | some inner => exact ih inner

/-! ## Templates without a variable -/

/-- Whether all texts of a view and of the views inside it satisfy a condition. -/
inductive View.AllTexts (holds : String → Prop) : View → Prop
  | intro {view : View}
      (texts : ∀ key text, (key, .text text) ∈ view.properties → holds text)
      (arguments : ∀ modifier ∈ view.modifiers, ∀ text, modifier.arguments = .text text →
        holds text)
      (children : ∀ child ∈ view.children, child.AllTexts holds)
      (properties : ∀ key inner, (key, .view inner) ∈ view.properties → inner.AllTexts holds)
      (contents : ∀ modifier ∈ view.modifiers, ∀ content, modifier.arguments = .content content →
        content.view.AllTexts holds) :
      view.AllTexts holds

section Fixed

variable {f : String → String}

theorem mapTextsValue_eq_self {value : PropertyValue View}
    (text : ∀ written, value = .text written → f written = written)
    (inner : ∀ view, value = .view view → view.mapTexts f = view) :
    mapTextsValue f value = value := by
  cases value with
  | text written => exact congrArg PropertyValue.text (text written rfl)
  | view view => exact congrArg PropertyValue.view (inner view rfl)
  | _ => rfl

theorem mapTextsArguments_eq_self {arguments : ModifierArguments View}
    (text : ∀ written, arguments = .text written → f written = written)
    (inner : ∀ content, arguments = .content content → content.view.mapTexts f = content.view) :
    mapTextsArguments f arguments = arguments := by
  cases arguments with
  | text written => exact congrArg ModifierArguments.text (text written rfl)
  | content content =>
    obtain ⟨view, alignment⟩ := content
    exact congrArg (fun view ↦ ModifierArguments.content ⟨view, alignment⟩) (inner _ rfl)
  | _ => rfl

/-- A substitution that leaves every text leaves the view. -/
theorem View.mapTexts_eq_self {view : View}
    (fixed : view.AllTexts fun text ↦ f text = text) : view.mapTexts f = view := by
  induction fixed with
  | @intro view texts arguments _ _ _ children properties contents =>
    obtain ⟨kind, ownProperties, ownModifiers, ownChildren⟩ := view
    have sameProperties : ownProperties.map (mapTextsProperty f) = ownProperties := by
      refine (List.map_congr_left ?_).trans (List.map_id ownProperties)
      rintro ⟨key, value⟩ member
      have same : mapTextsValue f value = value := by
        apply mapTextsValue_eq_self
        · rintro written rfl
          exact texts key written member
        · rintro inner rfl
          exact properties key inner member
      exact congrArg (Prod.mk key) same
    have sameModifiers : ownModifiers.map (mapTextsModifier f) = ownModifiers := by
      refine (List.map_congr_left ?_).trans (List.map_id ownModifiers)
      rintro ⟨name, written⟩ member
      have same : mapTextsArguments f written = written :=
        mapTextsArguments_eq_self (arguments _ member) (contents _ member)
      exact congrArg (Modifier.mk name) same
    have sameChildren : ownChildren.map (View.mapTexts f) = ownChildren :=
      (List.map_congr_left children).trans (List.map_id ownChildren)
    rw [View.mapTexts_eq, sameProperties, sameModifiers, sameChildren]

end Fixed

theorem View.AllTexts.imp {holds other : String → Prop} {view : View}
    (all : view.AllTexts holds) (implies : ∀ text, holds text → other text) :
    view.AllTexts other := by
  induction all with
  | intro texts arguments _ _ _ children properties contents =>
    exact .intro (fun key text member ↦ implies text (texts key text member))
      (fun modifier member text same ↦ implies text (arguments modifier member text same))
      children properties contents

/-! ## Rows of a repetition inside a row -/

namespace View

/-- A view does not mention a variable when no text in it interpolates the variable. -/
def Unmentioned (name : String) (view : View) : Prop :=
  view.AllTexts fun text ↦ occursIn (interpolation name).toList text.toList = false

theorem replaceText_of_unmentioned {name : String} {view : View}
    (unmentioned : view.Unmentioned name) (value : String) :
    view.replaceText (interpolation name) value = view :=
  mapTexts_eq_self (unmentioned.imp fun _ absent ↦ replaceString_eq_self value absent)

/-- The name of a variable is too short to interpolate the variable. -/
theorem replaceString_interpolation_name (name value : String) :
    replaceString (interpolation name) value name = name := by
  apply replaceString_eq_self
  apply occursIn_eq_false_of_length_lt
  rw [interpolation, String.toList_append, String.toList_append, List.length_append,
    List.length_append]
  have opening : "\\(".toList.length = 2 := by decide
  omega

variable {outer template inner : View} {name : String} {path : List Step}

/-- The rows of a repetition in whose texts another value has already been put for its variable. -/
theorem expandRows_replaceText (named : inner.string? "rowVariable" = some name) {nested : View}
    (hasNested : inner.view? "rowTemplate" = some nested) (value : String) (maxRepeat : Nat) :
    (inner.replaceText (interpolation name) value).expandRows maxRepeat =
      (inner.rowValues maxRepeat).map fun own ↦
        (nested.replaceText (interpolation name) value).replaceText (interpolation name) own := by
  have stillNamed :
      (inner.replaceText (interpolation name) value).string? "rowVariable" = some name :=
    string?_mapTexts _ inner _ named (replaceString_interpolation_name name value)
  rw [expandRows, stillNamed, replaceText, view?_mapTexts, hasNested, rowValues_mapTexts]
  rfl

/-- The rows of a repetition whose template does not mention its variable are not changed by a
value put for the variable. -/
theorem expandRows_replaceText_of_unmentioned (named : inner.string? "rowVariable" = some name)
    (unmentioned : ∀ nested, inner.view? "rowTemplate" = some nested → nested.Unmentioned name)
    (value : String) (maxRepeat : Nat) :
    (inner.replaceText (interpolation name) value).expandRows maxRepeat =
      inner.expandRows maxRepeat := by
  cases hasNested : inner.view? "rowTemplate" with
  | none =>
    rw [expandRows, expandRows, replaceText, view?_mapTexts, hasNested]
    rfl
  | some nested =>
    rw [expandRows_replaceText named hasNested,
      replaceText_of_unmentioned (unmentioned nested hasNested), expandRows, named, hasNested]
    rfl

/-- A repetition inside the template of another one with the same variable.  Every row of the outer
repetition has at the same place a repetition with the same variable over the same values.  The
value of the outer row has already been put for the variable in its template, so that its own values
go only where the variable is still mentioned after that.  Its rows are those it has in the
template when its own template does not mention the variable. -/
theorem expandRows_nested (hasTemplate : outer.view? "rowTemplate" = some template)
    (outerNamed : outer.string? "rowVariable" = some name) (reached : template.at? path = some inner)
    (isRepetition : inner.kind = .forEach) (innerNamed : inner.string? "rowVariable" = some name)
    (maxRepeat : Nat) :
    (outer.expandRows maxRepeat).length = (outer.rowValues maxRepeat).length ∧
      ∀ (k : Nat) (value : String), (outer.rowValues maxRepeat)[k]? = some value →
        ∃ row shown : View, (outer.expandRows maxRepeat)[k]? = some row ∧
          row.at? path = some shown ∧
          shown.kind = .forEach ∧ shown.string? "rowVariable" = some name ∧
          shown.rowValues maxRepeat = inner.rowValues maxRepeat ∧
          (∀ nested, inner.view? "rowTemplate" = some nested →
            shown.expandRows maxRepeat = (inner.rowValues maxRepeat).map fun own ↦
              (nested.replaceText (interpolation name) value).replaceText (interpolation name)
                own) ∧
          ((∀ nested, inner.view? "rowTemplate" = some nested → nested.Unmentioned name) →
            shown.expandRows maxRepeat = inner.expandRows maxRepeat) := by
  have rows : outer.expandRows maxRepeat =
      (outer.rowValues maxRepeat).map (template.replaceText (interpolation name)) := by
    rw [expandRows, hasTemplate, outerNamed]
    rfl
  refine ⟨by rw [rows, List.length_map], ?_⟩
  intro k value atPlace
  refine ⟨template.replaceText (interpolation name) value,
    inner.replaceText (interpolation name) value, ?row, ?place, ?kind, ?named, ?values,
    fun nested hasNested ↦ expandRows_replaceText innerNamed hasNested value maxRepeat,
    fun unmentioned ↦ expandRows_replaceText_of_unmentioned innerNamed unmentioned value maxRepeat⟩
  case row => rw [rows, List.getElem?_map, atPlace, Option.map_some]
  case place => rw [replaceText, at?_mapTexts, reached, Option.map_some]; rfl
  case kind => rw [replaceText, kind_mapTexts, isRepetition]
  case named =>
    exact string?_mapTexts _ inner _ innerNamed (replaceString_interpolation_name name value)
  case values => exact rowValues_mapTexts _ inner maxRepeat

/-- A repetition over a range with the variable `i`. -/
def countedRows (start stop : Int64) (template : View) : View :=
  ⟨.forEach, [("forEachRange", .range ⟨start, stop, false⟩), ("rowTemplate", .view template),
    ("rowVariable", .text "i")], [], []⟩

/-- Two rows in each of two rows, both repetitions with the variable `i`. -/
def shadowedRows : View :=
  countedRows 0 2 (around .hStack [countedRows 5 7 (ofText "\\(i)")])

theorem expandRows_nested_shadowedRows :
    ∃ row shown : View, (shadowedRows.expandRows 9)[1]? = some row ∧
      row.at? [.child 0] = some shown ∧ shown.expandRows 9 = [ofText "1", ofText "1"] := by
  have hasTemplate : shadowedRows.view? "rowTemplate" =
      some (around .hStack [countedRows 5 7 (ofText "\\(i)")]) := rfl
  have reached : (around .hStack [countedRows 5 7 (ofText "\\(i)")]).at? [.child 0] =
      some (countedRows 5 7 (ofText "\\(i)")) := rfl
  have nested := expandRows_nested hasTemplate rfl reached rfl rfl 9
  obtain ⟨row, shown, rowAt, shownAt, -, -, -, rows, -⟩ := nested.2 1 "1" (by decide)
  exact ⟨row, shown, rowAt, shownAt, rows (ofText "\\(i)") rfl⟩

/-- Row variables are not scoped: the value of an outer row replaces the variable of a repetition
inside it that has the same name. -/
theorem shadowedRows_captured :
    ¬ ∀ (outer template inner row shown : View) (name : String) (path : List Step)
        (maxRepeat k : Nat),
      outer.view? "rowTemplate" = some template → outer.string? "rowVariable" = some name →
      template.at? path = some inner → inner.kind = .forEach →
      inner.string? "rowVariable" = some name → (outer.expandRows maxRepeat)[k]? = some row →
      row.at? path = some shown → shown.expandRows maxRepeat = inner.expandRows maxRepeat := by
  intro untouched
  have same := untouched shadowedRows _ (countedRows 5 7 (ofText "\\(i)")) _ _ "i" [.child 0] 9 0
    rfl rfl rfl rfl rfl rfl rfl
  have texts := congrArg (List.map fun row ↦ row.string? "text") same
  exact absurd texts (by decide)

end View

end ViewPreview
