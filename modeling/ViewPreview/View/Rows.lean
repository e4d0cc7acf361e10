import ViewPreview.Number.Layout
import ViewPreview.View.Weight

/-!
# Rows of a Repetition

A `ForEach` view repeats a template once for each of its values.  Each row is a copy of the template
in which the interpolation of the row variable, `\(variable)`, is replaced by the value.  The number
of rows is capped.  A repetition that carries no modifiers can be replaced by its rows among its
siblings.
-/

namespace ViewPreview

namespace View

/-- The values a repetition runs over, at most `maxRepeat` of them. -/
def rowValues (view : View) (maxRepeat : Nat) : List String :=
  match view.range? "forEachRange" with
  | some range =>
    (List.range (min range.count maxRepeat)).filterMap fun index ↦
      (range.valueAt? index).map fun value ↦ Number.integerText value.toInt
  | none => ((view.list? "forEachItems").getD []).take maxRepeat

/-- The text that interpolates the variable of a given name into a string. -/
def interpolation (rowName : String) : String :=
  "\\(" ++ rowName ++ ")"

/-- A template filled in with a value for the row variable, if there is one. -/
def fillRow (template : View) (rowName : Option String) (value : String) : View :=
  match rowName with
  | some rowName => template.replaceText (interpolation rowName) value
  | none => template

/-- The rows of a repetition. -/
def expandRows (view : View) (maxRepeat : Nat) : List View :=
  match view.view? "rowTemplate" with
  | some template =>
    (view.rowValues maxRepeat).map (template.fillRow (view.string? "rowVariable"))
  | none => []

/-- Whether a view is a repetition that can be replaced by its rows. -/
def isPlainRepetition (view : View) : Bool :=
  view.kind == .forEach && view.modifiers.isEmpty

/-- The rows that a view stands for among its siblings: those of a plain repetition, else the view
alone. -/
def asRows (maxRepeat : Nat) (view : View) : List View :=
  if view.isPlainRepetition then view.expandRows maxRepeat else [view]

end View

/-- The views of a list with every plain repetition replaced by its rows. -/
def inlineRows (maxRepeat : Nat) (views : List View) : List View :=
  views.flatMap (View.asRows maxRepeat)

/-! ## Rows are lighter than the repetition -/

theorem View.weight_fillRow (template : View) (rowName : Option String) (value : String) :
    (template.fillRow rowName value).weight = template.weight := by
  cases rowName <;> simp [View.fillRow]

theorem View.weight_lt_of_view? {view inner : View} {key : String}
    (found : view.view? key = some inner) : inner.weight < view.weight := by
  unfold View.view? at found
  split at found
  · next value heq =>
    cases found
    exact View.weight_lt_of_property heq
  · cases found

theorem View.weight_lt_of_mem_expandRows {view row : View} {maxRepeat : Nat}
    (member : row ∈ view.expandRows maxRepeat) : row.weight < view.weight := by
  unfold View.expandRows at member
  split at member
  · next template heq =>
    obtain ⟨value, _, rfl⟩ := List.mem_map.mp member
    rw [View.weight_fillRow]
    exact View.weight_lt_of_view? heq
  · simp at member

theorem View.weight_lt_of_mem_inlineRows {view row : View} {maxRepeat : Nat}
    (member : row ∈ inlineRows maxRepeat view.children) : row.weight < view.weight := by
  obtain ⟨child, childMember, rowMember⟩ := List.mem_flatMap.mp member
  have childLighter := View.weight_lt_of_mem_children childMember
  unfold View.asRows at rowMember
  split at rowMember
  · exact Nat.lt_trans (View.weight_lt_of_mem_expandRows rowMember) childLighter
  · rw [List.mem_singleton.mp rowMember]
    exact childLighter

end ViewPreview
