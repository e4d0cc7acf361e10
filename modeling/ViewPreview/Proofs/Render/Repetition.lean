import ViewPreview.Proofs.View.Rows
import ViewPreview.Render.Markup

/-!
# Rendering a Repetition

A repetition without modifiers is an element around the markup of its rows.  Among siblings it is
replaced by its rows, and their markup is the same.  The rows are exactly those that the bounds of
its range, or its items, ask for, as far as the limit on their number goes.
-/

namespace ViewPreview.Render

open ViewPreview.Html (Node writeAttributes writeNodes)

/-! ## The element of a repetition -/

theorem writeNodes_eq_join (nodes : List Node) :
    writeNodes nodes = String.join (nodes.map Node.write) := by
  induction nodes with
  | nil => rfl
  | cons node nodes ih => rw [writeNodes, ih, List.map_cons, String.join_cons]

theorem wrap_of_unmodified {view : View} (unmodified : view.modifiers = []) (inside : Within view)
    (node : Node) : wrap view inside node = node := by
  cases view with
  | mk kind properties modifiers children =>
    cases unmodified
    rfl

theorem repetition_viewNode (options : RenderOptions) (view : View) :
    repetition options view (fun inner _ ↦ viewNode options inner) =
      (view.expandRows options.maxRepeat).map (viewNode options) := by
  rw [repetition, List.pmap_eq_map]

/-- A repetition without modifiers is an element around the markup of its rows. -/
theorem render_repetition (options : RenderOptions) {view : View} (isRepetition : view.kind = .forEach)
    (unmodified : view.modifiers = []) :
    render options view =
      "<div" ++ writeAttributes (openingAttributes view options "") ++ ">" ++
        String.join ((view.expandRows options.maxRepeat).map (render options)) ++ "</div>" := by
  have element : viewNode options view =
      plainElement options "div" view
        ((view.expandRows options.maxRepeat).map (viewNode options)) := by
    rw [viewNode, wrap_of_unmodified unmodified, markup]
    simp only [isRepetition, repetition_viewNode]
  have opening : "<" ++ "div" = "<div" := by decide
  have closing : "</" ++ ("div" ++ ">") = "</div>" := by decide
  have written : (Node.write ∘ viewNode options) = render options := funext fun _ ↦ rfl
  rw [render, element, plainElement, viewElement, List.append_nil, Node.write, writeNodes_eq_join,
    List.map_map, written, opening]
  simp only [String.append_assoc, closing]

end ViewPreview.Render

namespace ViewPreview

theorem inlineRows_append (maxRepeat : Nat) (first second : List View) :
    inlineRows maxRepeat (first ++ second) =
      inlineRows maxRepeat first ++ inlineRows maxRepeat second :=
  List.flatMap_append

/-- Among its siblings a repetition without modifiers is replaced by its rows. -/
theorem inlineRows_repetition {view : View} (isRepetition : view.kind = .forEach)
    (unmodified : view.modifiers = []) (maxRepeat : Nat) (before after : List View) :
    inlineRows maxRepeat (before ++ view :: after) =
      inlineRows maxRepeat before ++ (view.expandRows maxRepeat ++ inlineRows maxRepeat after) := by
  have plain : view.isPlainRepetition = true := by
    rw [View.isPlainRepetition, isRepetition, unmodified]
    rfl
  rw [inlineRows_append, inlineRows, inlineRows, List.flatMap_cons, View.asRows, if_pos plain]
  rfl

end ViewPreview

namespace ViewPreview.Render

open ViewPreview.Html (writeAttributes)

/-- A repetition is expanded exactly.  With a range it has as many rows as the range has integers,
counted without bounds, but no more than the limit, and each row is the template filled in with the
integer at its place; with items it has one row for each of them in order, up to the limit; with
neither, or without a template, it has none.  Rendered by itself, a repetition without modifiers is
an element around the markup of its rows, and rendered among siblings it is the markup of the same
rows. -/
theorem repetition_exact (view : View) :
    (∀ (maxRepeat : Nat) (template : View), maxRepeat ≤ Int64.maxValue.toInt →
      view.view? "rowTemplate" = some template →
        (∀ range, view.range? "forEachRange" = some range →
          (view.expandRows maxRepeat).length =
              min (max 0 (range.stop.toInt - range.start.toInt +
                if range.inclusive then 1 else 0)).toNat maxRepeat ∧
            ∀ k < (view.expandRows maxRepeat).length, (view.expandRows maxRepeat)[k]? =
              some (template.fillRow (view.string? "rowVariable")
                (Number.integerText (range.start.toInt + k)))) ∧
        (∀ items, view.range? "forEachRange" = none → view.list? "forEachItems" = some items →
          (view.expandRows maxRepeat).length = min items.length maxRepeat ∧
            ∀ k < (view.expandRows maxRepeat).length, (view.expandRows maxRepeat)[k]? =
              items[k]?.map (template.fillRow (view.string? "rowVariable"))) ∧
        (view.range? "forEachRange" = none → view.list? "forEachItems" = none →
          view.expandRows maxRepeat = [])) ∧
    (∀ maxRepeat : Nat, view.view? "rowTemplate" = none → view.expandRows maxRepeat = []) ∧
    (view.kind = .forEach → view.modifiers = [] →
      ∀ (options : RenderOptions) (before after : List View),
        render options view =
            "<div" ++ writeAttributes (openingAttributes view options "") ++ ">" ++
              String.join ((view.expandRows options.maxRepeat).map (render options)) ++ "</div>" ∧
          (inlineRows options.maxRepeat (before ++ view :: after)).map (render options) =
            (inlineRows options.maxRepeat before).map (render options) ++
              ((view.expandRows options.maxRepeat).map (render options) ++
                (inlineRows options.maxRepeat after).map (render options))) := by
  refine ⟨?_, fun _ noTemplate ↦ View.expandRows_eq_nil noTemplate, ?_⟩
  · intro maxRepeat template bounded hasTemplate
    have rows := View.expandRows_eq hasTemplate bounded
    refine ⟨?range, ?items, ?neither⟩
    case range =>
      intro range isRange
      have count : (view.expandRows maxRepeat).length = min range.span.toNat maxRepeat := by
        rw [rows, List.length_map, List.length_take, View.rowTexts_of_range isRange,
          List.length_map, range.length_integers, Nat.min_comm]
      have nonnegative : (max 0 range.span).toNat = range.span.toNat := by omega
      refine ⟨?_, ?_⟩
      · rw [count, ← nonnegative]
        rfl
      · intro k inside
        rw [count] at inside
        have below : k < maxRepeat := by omega
        have member : k < range.span.toNat := by omega
        rw [rows, List.getElem?_map, List.getElem?_take_of_lt below,
          View.rowTexts_of_range isRange, List.getElem?_map, range.getElem?_integers member]
        rfl
    case items =>
      intro items noRange isList
      have values : view.rowTexts = items := by
        rw [View.rowTexts_of_items noRange, isList, Option.getD_some]
      have count : (view.expandRows maxRepeat).length = min items.length maxRepeat := by
        rw [rows, List.length_map, List.length_take, values, Nat.min_comm]
      refine ⟨count, ?_⟩
      intro k inside
      have below : k < maxRepeat := by omega
      rw [rows, List.getElem?_map, List.getElem?_take_of_lt below, values]
    case neither =>
      intro noRange noItems
      rw [rows, View.rowTexts_of_items noRange, noItems, Option.getD_none, List.take_nil,
        List.map_nil]
  · intro isRepetition unmodified options before after
    refine ⟨render_repetition options isRepetition unmodified, ?_⟩
    rw [inlineRows_repetition isRepetition unmodified, List.map_append, List.map_append]

/-- The last two integers of 64 bits as rows. -/
def lastIntegers : View :=
  ⟨.forEach,
    [("forEachRange", .range ⟨9223372036854775806, 9223372036854775807, true⟩),
      ("rowTemplate", .view (View.ofText "Row \\(i)")), ("rowVariable", .text "i")], [], []⟩

/-- Two items as rows of a template without a variable. -/
def twoItems : View :=
  ⟨.forEach,
    [("forEachItems", .list ["a", "b"]), ("rowTemplate", .view (View.ofText "Row"))], [], []⟩

theorem repetition_exact_lastIntegers :
    ((500 : Nat) : Int) ≤ Int64.maxValue.toInt ∧
      (lastIntegers.expandRows 500).length = 2 ∧
      (lastIntegers.expandRows 500)[1]? = some (View.ofText "Row 9223372036854775807") ∧
      (twoItems.expandRows 1).length = 1 ∧
      (View.ofKind .forEach).expandRows 500 = [] ∧
      (inlineRows 500 ([] ++ lastIntegers :: [])).map (render {}) =
        (inlineRows 500 []).map (render {}) ++
          ((lastIntegers.expandRows 500).map (render {}) ++
            (inlineRows 500 []).map (render {})) := by
  have bounded : ((500 : Nat) : Int) ≤ Int64.maxValue.toInt := by decide
  have ranged := ((repetition_exact lastIntegers).1 500 _ bounded rfl).1 _ rfl
  have listed := ((repetition_exact twoItems).1 1 _ (by decide) rfl).2.1 ["a", "b"] rfl rfl
  have count : (lastIntegers.expandRows 500).length = 2 := ranged.1
  have second := ranged.2 1 (by rw [count]; decide)
  exact ⟨bounded, count, second, listed.1,
    (repetition_exact (View.ofKind .forEach)).2.1 500 rfl,
    ((repetition_exact lastIntegers).2.2 rfl rfl {} [] []).2⟩

end ViewPreview.Render
