import ViewPreview.Token.Declaration

/-!
# Getters

The parts between the braces of a getter, cut into statements.  Nothing but semicolons is lost in
the cutting.  Only the first statement is read; it is an expression as a whole, up to a word before
it that leaves the getter.
-/

namespace ViewPreview

open ViewPreview.Outline

/-! ## Cutting into statements -/

section Cutting

variable {α : Type} (surroundings : Surroundings) (item : α → Item)

theorem flatten_separate (progress : Progress) (current parts : List α) :
    (separate surroundings item progress current parts).flatten =
      current ++ parts.filter fun part ↦ !(item part).isMark ";" := by
  induction parts generalizing progress current with
  | nil => rw [separate, List.flatten_singleton, List.filter_nil, List.append_nil]
  | cons part parts ih =>
    rw [separate]
    cases separates : (item part).isMark ";" with
    | true =>
      simp only [if_true, List.flatten_cons, ih]
      rw [List.filter_cons_of_neg (by simp [separates]), List.nil_append]
    | false =>
      rw [List.filter_cons_of_pos (by simp [separates])]
      simp only [Bool.false_eq_true, if_false]
      split
      · rw [List.flatten_cons, ih, List.singleton_append]
      · rw [ih, List.append_assoc, List.singleton_append]

/-- The statements hold all parts but the semicolons between them. -/
theorem flatten_statementsOf (parts : List α) :
    (statementsOf surroundings item parts).flatten =
      parts.filter fun part ↦ !(item part).isMark ";" := by
  rw [statementsOf, List.flatten_filter_not_isEmpty, flatten_separate, List.nil_append]

theorem ne_nil_of_mem_statementsOf {statement parts : List α}
    (member : statement ∈ statementsOf surroundings item parts) : statement ≠ [] := by
  intro empty
  have counts := (List.mem_filter.mp member).2
  rw [empty] at counts
  cases counts

theorem mem_of_mem_statementsOf {statement parts : List α} {part : α}
    (member : statement ∈ statementsOf surroundings item parts) (inside : part ∈ statement) :
    part ∈ parts := by
  have flat : part ∈ (statementsOf surroundings item parts).flatten :=
    List.mem_flatten_of_mem member inside
  rw [flatten_statementsOf] at flat
  exact (List.mem_filter.mp flat).1

end Cutting

/-! ## The getter that is read -/

/-- The parts of the getter that a source is read from, and whether brackets of the source do not
fit. -/
def getterParts? (source : List Char) : Option (Bool × List Part) := do
  let (items, unbalanced) := itemsOf source
  let declaration ← findView? false items
  let property ← ((statementsOf .members id declaration.members).map bindings).find? fun binding ↦
    binding.any bindsBody
  let computed ← property.findSome? computedItems?
  some (unbalanced, partsOf (getterBody computed))

/-- Whether the brackets of a source do not fit, or something in its getter stands on the line of
another statement without a separator. -/
def isMalformed (unbalanced : Bool) (parts : List Part) : Bool :=
  unbalanced || parts.any Part.malformed || (statementsOf .block Part.item parts).any holdsJoined

/-- What is read of a getter with a given first statement. -/
def readStatement (malformed : Bool) (first : List Part) : Body Caveat :=
  { caveats := if malformed then [⟨none, .syntaxErrors⟩] else []
    text := (statementOutline first).text
    expression := (statementOutline first).expression }

variable {source : List Char} {unbalanced : Bool} {parts first : List Part}
  {others : List (List Part)}

/-- A source is read from the first statement of its getter. -/
theorem readStructure_eq (found : getterParts? source = some (unbalanced, parts))
    (cut : statementsOf .block Part.item parts = first :: others) :
    readStructure source = .ok (readStatement (isMalformed unbalanced parts) first) := by
  simp only [getterParts?, Option.bind_eq_bind, Option.bind_eq_some_iff] at found
  obtain ⟨declaration, isDeclaration, property, isProperty, computed, isComputed, same⟩ := found
  cases same
  rw [readStructure]
  simp only [isDeclaration, isProperty, isComputed, cut, List.head?_cons]
  rw [isMalformed, cut]
  rfl

theorem exists_getterParts_of_readStructure {content : Body Caveat}
    (read : readStructure source = .ok content) :
    ∃ unbalanced parts first others, getterParts? source = some (unbalanced, parts) ∧
      statementsOf .block Part.item parts = first :: others := by
  rw [readStructure] at read
  cases isDeclaration : findView? false (itemsOf source).1 with
  | none =>
    simp only [isDeclaration] at read
    cases read
  | some declaration =>
    cases isProperty : ((statementsOf .members id declaration.members).map bindings).find?
        fun binding ↦ binding.any bindsBody with
    | none =>
      simp only [isDeclaration, isProperty] at read
      cases read
    | some property =>
      cases isComputed : property.findSome? computedItems? with
      | none =>
        simp only [isDeclaration, isProperty, isComputed] at read
        cases read
      | some computed =>
        cases cut : statementsOf .block Part.item (partsOf (getterBody computed)) with
        | nil =>
          simp only [isDeclaration, isProperty, isComputed, cut] at read
          cases read
        | cons first others =>
          refine ⟨(itemsOf source).2, partsOf (getterBody computed), first, others, ?_, cut⟩
          simp only [getterParts?, isDeclaration, isProperty, isComputed, Option.bind_eq_bind,
            Option.bind_some]

end ViewPreview
