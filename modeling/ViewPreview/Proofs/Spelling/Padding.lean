import ViewPreview.Proofs.Spelling.Element
import ViewPreview.Proofs.Spelling.Modifier

/-!
# The Edges of a Padding

The arguments of a padding are read one by one, and each adds the edges that it names.  An edge that
stands alone has to be a known one.  In an array literal an unknown one is left out, and where no
edge is named at all the padding is on every side: an unknown edge is an error alone, and stands for
all edges in an array literal.
-/

namespace ViewPreview.Spelling

open ViewPreview.Text ViewPreview.Call ViewPreview.Number ViewPreview.Canonical

/-! ## What the arguments ask for -/

/-- What one argument of a padding asks for. -/
def asked? (argument : Argument) : Option Padding :=
  addPadding ⟨[], none⟩ argument

/-- A padding and what is asked for behind it: the edges of both, and the later amount. -/
def extend (padding asked : Padding) : Padding :=
  ⟨padding.edges ++ asked.edges, asked.amount.or padding.amount⟩

/-- A padding on the edges that are named, or on all of them when none is. -/
def onEdges (named : List Edge) (amount : Option Float) : Padding :=
  ⟨if named.isEmpty then [.all] else named, amount⟩

/-- The edges are those that are named only where one is. -/
theorem edges_onEdges_iff {named : List Edge} {amount : Option Float} :
    (onEdges named amount).edges = named ↔ named ≠ [] := by
  cases named with
  | nil => exact iff_of_false (List.cons_ne_nil Edge.all []) (fun isNamed ↦ isNamed rfl)
  | cons edge others => exact iff_of_true rfl (List.cons_ne_nil edge others)

/-- An argument adds what it asks for. -/
theorem addPadding_eq (padding : Padding) (argument : Argument) :
    addPadding padding argument = (asked? argument).map (extend padding) := by
  unfold asked? addPadding
  dsimp only
  split
  · rfl
  · split
    · rw [Option.map_map]
      rfl
    · simp only [Option.map_map, Function.comp_def, extend, List.append_nil, Option.some_or]

/-- The arguments together add what each of them asks for, or fail when one of them does. -/
theorem foldlM_addPadding (padding : Padding) (arguments : List Argument) :
    arguments.foldlM addPadding padding =
      (arguments.mapM asked?).map (List.foldl extend padding) := by
  induction arguments generalizing padding with
  | nil => rfl
  | cons argument arguments ih =>
    rw [List.foldlM_cons, List.mapM_cons, addPadding_eq]
    cases asked? argument with
    | none => rfl
    | some asked =>
      show arguments.foldlM addPadding (extend padding asked) = _
      rw [ih]
      cases arguments.mapM asked? with
      | none => rfl
      | some others => rfl

theorem foldl_extend (padding : Padding) (asked : List Padding) :
    asked.foldl extend padding =
      ⟨padding.edges ++ asked.flatMap Padding.edges,
        (asked.reverse.findSome? Padding.amount).or padding.amount⟩ := by
  induction asked generalizing padding with
  | nil =>
    rw [List.flatMap_nil, List.append_nil]
    rfl
  | cons first others ih =>
    rw [List.foldl_cons, ih, List.flatMap_cons, ← List.append_assoc, List.reverse_cons,
      List.findSome?_append, Option.or_assoc, List.findSome?_singleton]
    rfl

/-- A padding is on the edges that its arguments name, in order, by the last amount that is
given. -/
theorem padding?_eq (arguments : Arguments) :
    padding? arguments = (arguments.unlabeled.mapM asked?).map fun asked ↦
      onEdges (asked.flatMap Padding.edges) (asked.reverse.findSome? Padding.amount) := by
  rw [padding?, foldlM_addPadding, Option.map_map]
  congr 1
  funext asked
  rw [Function.comp_apply, foldl_extend, List.nil_append, Option.or_none, onEdges]
  dsimp only
  split
  · rfl
  · rfl

/-! ## Edges alone and in an array literal -/

/-- The answer that a padding gives to a call, which is an error when it can not be read. -/
def answer : Option Padding → Except ArgumentError (ModifierArguments View)
  | some padding => .ok (.padding padding)
  | none => .error ⟨"padding", .edgesOrNumber⟩

theorem interpret_padding (arguments : Arguments) :
    interpret "padding" arguments = answer (padding? arguments) := by
  have isPadding : category "padding" = .padding := rfl
  simp only [interpret, isPadding]
  cases padding? arguments with
  | none => rfl
  | some padding => rfl

/-- What a padding means that is called with edges and perhaps an amount. -/
def paddingWith (edges : Operand) (amount : Option Numeral) :
    Except ArgumentError (ModifierArguments View) :=
  interpret "padding"
    (Arguments.ofText (slotsText (.plain edges :: positional (amount.map .number))))

section Edges

variable {edges : Operand} {amount : Option Numeral}

theorem asked?_numeral (amount : Numeral) :
    asked? ⟨none, amount.text, none⟩ = some ⟨[], some amount.value⟩ :=
  addPadding_amount amount ⟨[], none⟩

/-- The padding is on the edges that are asked for, by the amount. -/
theorem paddingWith_eq {named : Option (List Edge)}
    (read : asked? ⟨none, edges.text, none⟩ = named.map (⟨·, none⟩)) :
    paddingWith edges amount =
      answer (named.map (onEdges · (amount.map Numeral.value))) := by
  rw [paddingWith, ofText_slotsText, interpret_padding, padding?_eq]
  congr 1
  cases amount with
  | none =>
    show ([(⟨none, edges.text, none⟩ : Argument)].mapM asked?).map _ = _
    rw [List.mapM_cons, read]
    cases named with
    | none => rfl
    | some named =>
      show some (onEdges (named ++ []) none) = _
      rw [List.append_nil]
      rfl
  | some amount =>
    show ([(⟨none, edges.text, none⟩ : Argument), ⟨none, amount.text, none⟩].mapM asked?).map _ = _
    rw [List.mapM_cons, List.mapM_cons, read, asked?_numeral]
    cases named with
    | none => rfl
    | some named =>
      show some (onEdges (named ++ []) (some amount.value)) = _
      rw [List.append_nil]
      rfl

/-- An edge that stands alone is a known one or an error. -/
theorem paddingWith_dot (edge : Identifier) :
    paddingWith (.dot edge) amount =
      answer ((Edge.ofName? edge.string).map fun named ↦ ⟨[named], amount.map Numeral.value⟩) := by
  have noList : startsWith "[" (caseText edge) = false := startsWith_singleton '[' '.' _
  have isCase : startsWith "." (caseText edge) = true := startsWith_singleton '.' '.' _
  have read : asked? ⟨none, caseText edge, none⟩ =
      ((Edge.ofName? edge.string).map ([·])).map (⟨·, none⟩) := by
    rw [asked?, addPadding, (trimmed_caseText edge).trim_eq, noList, if_neg Bool.false_ne_true,
      isCase, if_pos rfl, token?_caseText, Option.bind_some, Option.map_map]
    rfl
  rw [paddingWith_eq read, Option.map_map]
  rfl

/-- The edges in an array literal are those that its items name, and the others are left out. -/
theorem paddingWith_brackets {inner : List Char} (brackets : edges.text = '[' :: (inner ++ [']'])) :
    paddingWith edges amount = .ok (.padding
      (onEdges ((elementItems inner).filterMap Edge.ofName?) (amount.map Numeral.value))) := by
  have trimmed : trim edges.text = '[' :: (inner ++ [']']) := edges.trimmed.trim_eq.trans brackets
  have items : listItems? ('[' :: (inner ++ [']'])) = some (elementItems inner) := by
    rw [← brackets]
    exact listItems?_of_brackets trimmed
  have isList : startsWith "[" ('[' :: (inner ++ [']'])) = true := startsWith_singleton '[' '[' _
  have read : asked? ⟨none, edges.text, none⟩ =
      (some ((elementItems inner).filterMap Edge.ofName?)).map (⟨·, none⟩) := by
    rw [asked?, addPadding, trimmed, isList, if_pos rfl, items, Option.getD_some]
    rfl
  exact paddingWith_eq read

theorem paddingWith_dots (names : List Identifier) :
    paddingWith (.dots names) amount = .ok (.padding
      (onEdges (names.filterMap fun name ↦ Edge.ofName? name.string)
        (amount.map Numeral.value))) := by
  have brackets : (Operand.dots names).text =
      '[' :: (argumentsText (caseArguments names) ++ [']']) := rfl
  rw [paddingWith_brackets brackets, elementItems_caseArguments, List.filterMap_map]
  rfl

/-- An array literal of one edge is on that edge, and on all edges when it is unknown. -/
theorem paddingWith_dots_singleton (edge : Identifier) :
    paddingWith (.dots [edge]) amount = .ok (.padding
      ⟨[(Edge.ofName? edge.string).getD .all], amount.map Numeral.value⟩) := by
  rw [paddingWith_dots, List.filterMap_cons, List.filterMap_nil]
  cases Edge.ofName? edge.string with
  | none => rfl
  | some named => rfl

theorem isSome_ofName?_iff {name : String} :
    (Edge.ofName? name).isSome = true ↔ ∃ edge : Edge, edge.name = name := by
  have known (edge : Edge) : edge ∈ Edge.every := by cases edge <;> decide
  simp only [Edge.ofName?, List.find?_isSome, beq_iff_eq, known, true_and]

end Edges

/-- What a padding is on that is called with edges and perhaps an amount.  An edge alone is the one
of that name, and an unknown name is an error.  An array literal never fails: its edges are the
known ones among its items, in order, and all edges when no item is a known one.  So an edge means
the same alone and in an array literal exactly when its name is a known one, and the edges are those
that the array literal names exactly when it names one. -/
theorem padding_edges (amount : Option Numeral) :
    (∀ edge : Identifier,
      paddingWith (.dot edge) amount =
        answer ((Edge.ofName? edge.string).map fun named ↦ ⟨[named], amount.map Numeral.value⟩) ∧
      paddingWith (.dots [edge]) amount = .ok (.padding
        ⟨[(Edge.ofName? edge.string).getD .all], amount.map Numeral.value⟩) ∧
      (paddingWith (.dot edge) amount = paddingWith (.dots [edge]) amount ↔
        ∃ named : Edge, named.name = edge.string)) ∧
    (∀ names : List Identifier,
      paddingWith (.dots names) amount = .ok (.padding
        (onEdges (names.filterMap fun name ↦ Edge.ofName? name.string)
          (amount.map Numeral.value)))) ∧
    ∀ (edges : Operand) (inner : List Char), edges.text = '[' :: (inner ++ [']']) →
      let named := (elementItems inner).filterMap Edge.ofName?
      ∃ padding, paddingWith edges amount = .ok (.padding padding) ∧
        padding.amount = amount.map Numeral.value ∧
        (padding.edges = named ↔ named ≠ []) ∧ (named = [] → padding.edges = [.all]) ∧
        ∀ elements : List Element, elementsOf inner = elements.map Element.text →
          named = (elements.filterMap Element.reading?).filterMap Edge.ofName? := by
  refine ⟨fun edge ↦ ⟨paddingWith_dot edge, paddingWith_dots_singleton edge, ?same⟩,
    paddingWith_dots, fun edges inner brackets ↦ ⟨_, paddingWith_brackets brackets, rfl,
      edges_onEdges_iff, ?unnamed, ?written⟩⟩
  case same =>
    rw [paddingWith_dot, paddingWith_dots_singleton, ← isSome_ofName?_iff]
    cases Edge.ofName? edge.string with
    | none => exact iff_of_false (nomatch ·) Bool.false_ne_true
    | some named => exact iff_of_true rfl rfl
  case unnamed =>
    intro unnamed
    rw [unnamed]
    rfl
  case written =>
    intro elements same
    rw [elementItems_eq, same, filterMap_item?_text]

/-- The upper edge and one that is unknown. -/
def mixedEdges : List Identifier :=
  [⟨"top".toList, by decide⟩, ⟨"inset".toList, by decide⟩]

theorem padding_edges_mixedEdges :
    (Operand.dots mixedEdges).text = '[' :: (".top, .inset".toList ++ [']']) ∧
      ∃ padding, paddingWith (.dots mixedEdges) none = .ok (.padding padding) ∧
        padding.edges = [.top] := by
  have brackets : (Operand.dots mixedEdges).text = '[' :: (".top, .inset".toList ++ [']']) := by
    decide
  have named : (elementItems ".top, .inset".toList).filterMap Edge.ofName? = [.top] := by decide
  obtain ⟨padding, read, -, same, -⟩ := (padding_edges none).2.2 _ _ brackets
  refine ⟨brackets, padding, read, ?_⟩
  rw [named] at same
  exact same.mpr (List.cons_ne_nil _ _)

/-- An unknown edge is an error alone, and stands for all edges in an array literal. -/
theorem unknownEdge_on_every_side :
    ¬ ∀ (edge : Identifier) (amount : Option Numeral),
      paddingWith (.dot edge) amount = paddingWith (.dots [edge]) amount := by
  intro same
  have equal := same ⟨"foo".toList, by decide⟩ none
  have unknown : Edge.ofName? "foo" = none := by decide
  rw [paddingWith_dot, paddingWith_dots_singleton] at equal
  exact nomatch (show answer ((Edge.ofName? "foo").map _) = _ from equal)

end ViewPreview.Spelling
