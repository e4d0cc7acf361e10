import ViewPreview.Proofs.Render.Disregarded
import ViewPreview.Proofs.Render.Repetition
import ViewPreview.Proofs.View.Nesting

/-!
# Rows Among the Children

The children of a list are shown one row each, with every plain repetition replaced by its rows.
Where the template of a repetition is a plain repetition itself, its rows are repetitions in turn,
and these are not replaced: what is shown are the rows after one level of replacement.  Replacing
the repetitions among them down to the last level gives the leaf rows, in the same order.
-/

namespace ViewPreview

section Leaves

variable {maxRepeat : Nat} {view row : View} {views : List View}

/-- The rows that a view stands for among its siblings when the repetitions among its rows are
replaced by their rows as well. -/
def View.leafRows (maxRepeat : Nat) (view : View) : List View :=
  if view.isPlainRepetition then
    (view.expandRows maxRepeat).attach.flatMap fun row ↦ row.1.leafRows maxRepeat
  else [view]
termination_by view.weight
decreasing_by exact View.weight_lt_of_mem_expandRows row.2

theorem View.leafRows_of_plain (plain : view.isPlainRepetition = true) :
    view.leafRows maxRepeat = (view.expandRows maxRepeat).flatMap (View.leafRows maxRepeat) := by
  rw [View.leafRows, if_pos plain, List.flatMap_subtype fun _ _ ↦ rfl, List.unattach_attach]

theorem View.leafRows_of_not_plain (other : ¬view.isPlainRepetition = true) :
    view.leafRows maxRepeat = [view] := by
  rw [View.leafRows, if_neg other]

theorem View.asRows_of_plain (plain : view.isPlainRepetition = true) :
    view.asRows maxRepeat = view.expandRows maxRepeat :=
  if_pos plain

theorem View.asRows_of_not_plain (other : ¬view.isPlainRepetition = true) :
    view.asRows maxRepeat = [view] :=
  if_neg other

/-- One level of replacement does not change the leaf rows. -/
theorem View.flatMap_leafRows_asRows (maxRepeat : Nat) (view : View) :
    (view.asRows maxRepeat).flatMap (View.leafRows maxRepeat) = view.leafRows maxRepeat := by
  by_cases plain : view.isPlainRepetition = true
  · rw [View.asRows_of_plain plain, View.leafRows_of_plain plain]
  · rw [View.asRows_of_not_plain plain, List.flatMap_singleton]

theorem flatMap_leafRows_inlineRows (maxRepeat : Nat) (views : List View) :
    (inlineRows maxRepeat views).flatMap (View.leafRows maxRepeat) =
      views.flatMap (View.leafRows maxRepeat) := by
  rw [inlineRows, List.flatMap_assoc]
  exact List.flatMap_congr fun view _ ↦ view.flatMap_leafRows_asRows maxRepeat

/-- No leaf row is a plain repetition. -/
theorem View.not_plain_of_mem_leafRows {leaf : View} (member : leaf ∈ view.leafRows maxRepeat) :
    ¬leaf.isPlainRepetition = true := by
  -- The rows of a repetition are no part of it, as their texts differ, but they weigh less.
  induction weight : view.weight using Nat.strongRecOn generalizing view with
  | _ weight ih =>
    subst weight
    by_cases plain : view.isPlainRepetition = true
    · rw [View.leafRows_of_plain plain] at member
      obtain ⟨row, rowMember, leafMember⟩ := List.mem_flatMap.mp member
      exact ih _ (View.weight_lt_of_mem_expandRows rowMember) leafMember rfl
    · rw [View.leafRows_of_not_plain plain, List.mem_singleton] at member
      exact member ▸ plain

theorem flatMap_leafRows_of_not_plain (other : ∀ view ∈ views, ¬view.isPlainRepetition = true) :
    views.flatMap (View.leafRows maxRepeat) = views := by
  calc views.flatMap (View.leafRows maxRepeat)
      = views.flatMap fun view ↦ [view] :=
        List.flatMap_congr fun view member ↦ View.leafRows_of_not_plain (other view member)
    _ = views := List.flatMap_singleton' views

/-- The rows are the leaf rows when none of them is a plain repetition, and then only. -/
theorem inlineRows_eq_leafRows_iff :
    inlineRows maxRepeat views = views.flatMap (View.leafRows maxRepeat) ↔
      ∀ row ∈ inlineRows maxRepeat views, ¬row.isPlainRepetition = true := by
  constructor
  · intro same row member
    rw [same] at member
    obtain ⟨view, -, rowMember⟩ := List.mem_flatMap.mp member
    exact View.not_plain_of_mem_leafRows rowMember
  · intro other
    rw [← flatMap_leafRows_inlineRows, flatMap_leafRows_of_not_plain other]

/-! ## Rows that are repetitions -/

/-- Filling in a template does not make it a repetition, nor stop it from being one. -/
theorem View.isPlainRepetition_fillRow (template : View) (rowName : Option String)
    (value : String) :
    (template.fillRow rowName value).isPlainRepetition = template.isPlainRepetition := by
  cases rowName with
  | none => rfl
  | some rowName =>
    rw [View.fillRow, View.replaceText, View.isPlainRepetition, View.kind_mapTexts,
      View.mapTexts_eq, List.isEmpty_map]
    rfl

theorem View.mem_expandRows :
    row ∈ view.expandRows maxRepeat ↔
      ∃ template, view.view? "rowTemplate" = some template ∧
        ∃ value ∈ view.rowValues maxRepeat,
          row = template.fillRow (view.string? "rowVariable") value := by
  rw [View.expandRows]
  cases view.view? "rowTemplate" with
  | none => simp
  | some template => simp [eq_comm]

/-- The plain repetitions among the rows are those of a plain repetition whose template is one. -/
theorem plain_mem_inlineRows (plain : row.isPlainRepetition = true) :
    row ∈ inlineRows maxRepeat views ↔
      ∃ child ∈ views, child.isPlainRepetition = true ∧
        ∃ template, child.view? "rowTemplate" = some template ∧
          template.isPlainRepetition = true ∧
          ∃ value ∈ child.rowValues maxRepeat,
            row = template.fillRow (child.string? "rowVariable") value := by
  constructor
  · intro member
    obtain ⟨child, childMember, rowMember⟩ := List.mem_flatMap.mp member
    by_cases childPlain : child.isPlainRepetition = true
    · rw [View.asRows_of_plain childPlain, View.mem_expandRows] at rowMember
      obtain ⟨template, hasTemplate, value, isValue, rfl⟩ := rowMember
      rw [View.isPlainRepetition_fillRow] at plain
      exact ⟨child, childMember, childPlain, template, hasTemplate, plain, value, isValue, rfl⟩
    · rw [View.asRows_of_not_plain childPlain, List.mem_singleton] at rowMember
      exact absurd (rowMember ▸ plain) childPlain
  · rintro ⟨child, childMember, childPlain, template, hasTemplate, -, value, isValue, rfl⟩
    apply List.mem_flatMap.mpr ⟨child, childMember, ?_⟩
    rw [View.asRows_of_plain childPlain, View.mem_expandRows]
    exact ⟨template, hasTemplate, value, isValue, rfl⟩

end Leaves

end ViewPreview

namespace ViewPreview.Render

open ViewPreview.Html (Node)

/-! ## Lists and sections -/

section Framed

variable (options : RenderOptions) {view : View}

/-- A list has one element for each row, framed unless it is a section. -/
theorem markup_list (isList : view.kind = .list ∨ view.kind = .form) :
    ∃ extraClass, markup options view (fun inner _ ↦ viewNode options inner) =
      viewElement options "div" view extraClass [.verbatim "role" "list"]
        ((inlineRows options.maxRepeat view.children).map fun row ↦
          if row.kind = .listSection then viewNode options row
          else listRow (viewNode options row)) := by
  have listed : markup options view (fun inner _ ↦ viewNode options inner) =
      listMarkup options view fun inner _ ↦ viewNode options inner := by
    rcases isList with isList | isForm
    · simp only [markup, isList]
    · simp only [markup, isForm]
  exact ⟨_, by rw [listed, listMarkup, framedRows_eq_map]⟩

/-- The body of a section has one framed element for each row. -/
theorem markup_section (isSection : view.kind = .listSection) :
    ∃ header footer, markup options view (fun inner _ ↦ viewNode options inner) =
      plainElement options "section" view
        (header ++
          .element "div" [.verbatim "class" "sv-section-body", .verbatim "role" "list"]
            ((inlineRows options.maxRepeat view.children).map fun row ↦
              listRow (viewNode options row)) :: footer) := by
  have isMarkup : markup options view (fun inner _ ↦ viewNode options inner) =
      sectionMarkup options view fun inner _ ↦ viewNode options inner := by
    simp only [markup, isSection]
  exact ⟨_, _, by rw [isMarkup, sectionMarkup, framedRows_eq_map]⟩

end Framed

/-- The rows of a list of views.  Each view that is no plain repetition is one of them, at its
place, and a plain repetition is replaced at its place by the rows of one level.  The plain
repetitions that are left are the rows of those whose template is itself a plain repetition; there
are none exactly if the rows are the leaf rows, which they always become when replaced further, in
the same order.  A list and the body of a section show one element for each row. -/
theorem inlineRows_leaves (options : RenderOptions) (views : List View) :
    (∀ before child after, views = before ++ child :: after →
      inlineRows options.maxRepeat views =
        inlineRows options.maxRepeat before ++
          ((if child.isPlainRepetition then child.expandRows options.maxRepeat else [child]) ++
            inlineRows options.maxRepeat after)) ∧
    (∀ row : View, row.isPlainRepetition = true →
      (row ∈ inlineRows options.maxRepeat views ↔
        ∃ child ∈ views, child.isPlainRepetition = true ∧
          ∃ template, child.view? "rowTemplate" = some template ∧
            template.isPlainRepetition = true ∧
            ∃ value ∈ child.rowValues options.maxRepeat,
              row = template.fillRow (child.string? "rowVariable") value)) ∧
    (inlineRows options.maxRepeat views).flatMap (View.leafRows options.maxRepeat) =
      views.flatMap (View.leafRows options.maxRepeat) ∧
    (∀ leaf ∈ views.flatMap (View.leafRows options.maxRepeat), ¬leaf.isPlainRepetition = true) ∧
    (inlineRows options.maxRepeat views = views.flatMap (View.leafRows options.maxRepeat) ↔
      ∀ row ∈ inlineRows options.maxRepeat views, ¬row.isPlainRepetition = true) ∧
    (∀ view : View, view.children = views →
      (view.kind = .list ∨ view.kind = .form →
        ∃ extraClass, markup options view (fun inner _ ↦ viewNode options inner) =
          viewElement options "div" view extraClass [.verbatim "role" "list"]
            ((inlineRows options.maxRepeat views).map fun row ↦
              if row.kind = .listSection then viewNode options row
              else listRow (viewNode options row))) ∧
      (view.kind = .listSection →
        ∃ header footer, markup options view (fun inner _ ↦ viewNode options inner) =
          plainElement options "section" view
            (header ++
              .element "div" [.verbatim "class" "sv-section-body", .verbatim "role" "list"]
                ((inlineRows options.maxRepeat views).map fun row ↦
                  listRow (viewNode options row)) :: footer))) := by
  refine ⟨?inPlace, fun row plain ↦ plain_mem_inlineRows plain,
    flatMap_leafRows_inlineRows options.maxRepeat views, ?leaves, inlineRows_eq_leafRows_iff,
    ?shown⟩
  case inPlace =>
    rintro before child after rfl
    rw [inlineRows_append]
    rfl
  case leaves =>
    intro leaf member
    obtain ⟨view, -, leafMember⟩ := List.mem_flatMap.mp member
    exact View.not_plain_of_mem_leafRows leafMember
  case shown =>
    rintro view rfl
    exact ⟨markup_list options, markup_section options⟩

/-- A repetition whose template is a repetition. -/
def nestedRepetition : View :=
  View.countedRows 0 2 (View.countedRows 5 7 (View.ofText "\\(i)"))

theorem inlineRows_leaves_nestedRepetition :
    (∃ row ∈ inlineRows 500 [nestedRepetition], row.isPlainRepetition = true) ∧
      inlineRows 500 [nestedRepetition] ≠ [nestedRepetition].flatMap (View.leafRows 500) := by
  obtain ⟨-, repetitions, -, -, same, -⟩ := inlineRows_leaves {} [nestedRepetition]
  let row := (View.countedRows 5 7 (View.ofText "\\(i)")).fillRow (some "i") "1"
  have plain : row.isPlainRepetition = true := rfl
  have member : row ∈ inlineRows 500 [nestedRepetition] :=
    (repetitions row plain).mpr ⟨nestedRepetition, List.mem_cons_self, rfl,
      View.countedRows 5 7 (View.ofText "\\(i)"), rfl, rfl, "1", by decide, rfl⟩
  exact ⟨⟨row, member, plain⟩, fun equal ↦ same.mp equal row member plain⟩

/-- Rows can be repetitions: one level of replacement does not reach the leaf rows. -/
theorem nestedRepetition_left :
    ¬ ∀ (options : RenderOptions) (views : List View),
      ∀ row ∈ inlineRows options.maxRepeat views, ¬row.isPlainRepetition = true := by
  intro none
  exact none {} [nestedRepetition] _ List.mem_cons_self rfl

end ViewPreview.Render
