import ViewPreview.Proofs.Outline.Complete
import ViewPreview.Proofs.Token.Getter

/-!
# Lines of Statements

Every statement and every link in the outline of a getter has a line, at any depth: the line of its
first token.  Groups are read from the inside out, so this goes from the parts inside a group to the
call that the group makes.
-/

namespace ViewPreview

namespace Outline

/-! ## Located outlines -/

/-- Whether all links and statements in an expression have lines, at any depth. -/
inductive Expression.Located : Expression → Prop
  | intro {expression : Expression}
      (links : ∀ link ∈ expression.links, link.line? ≠ none)
      (arguments : ∀ call ∈ expression.calls, ∀ argument ∈ call.arguments,
        ∀ inner, argument.expression = some inner → inner.Located)
      (lines : ∀ call ∈ expression.calls, ∀ closure ∈ call.closures,
        ∀ statement ∈ closure.statements, statement.line ≠ none)
      (statements : ∀ call ∈ expression.calls, ∀ closure ∈ call.closures,
        ∀ statement ∈ closure.statements,
          ∀ inner, statement.expression = some inner → inner.Located) :
      expression.Located

/-- Whether a statement and everything in it has a line. -/
def Statement.Located (statement : Statement Expression) : Prop :=
  statement.line ≠ none ∧ ∀ inner, statement.expression = some inner → inner.Located

/-- Whether everything in a closure has a line. -/
def Closure.Located (closure : Closure Expression) : Prop :=
  ∀ statement ∈ closure.statements, statement.Located

/-- Whether everything in an argument has a line. -/
def Argument.Located (argument : Argument Expression) : Prop :=
  ∀ inner, argument.expression = some inner → inner.Located

/-- Whether everything in a call has a line. -/
def Call.Located (call : Call Expression) : Prop :=
  (∀ argument ∈ call.arguments, argument.Located) ∧ ∀ closure ∈ call.closures, closure.Located

theorem Expression.located_of_calls {expression : Expression}
    (links : ∀ link ∈ expression.links, link.line? ≠ none)
    (calls : ∀ call ∈ expression.calls, call.Located) : expression.Located :=
  .intro links (fun call member ↦ (calls call member).1)
    (fun call member closure inside statement deeper ↦
      ((calls call member).2 closure inside statement deeper).1)
    (fun call member closure inside statement deeper ↦
      ((calls call member).2 closure inside statement deeper).2)

namespace Expression.Located

variable {expression inner : Expression}

theorem call (located : expression.Located) {call : Call Expression}
    (member : call ∈ expression.calls) : call.Located := by
  cases located with
  | intro links arguments lines statements =>
    exact ⟨arguments call member, fun closure inside statement deeper ↦
      ⟨lines call member closure inside statement deeper,
        statements call member closure inside statement deeper⟩⟩

theorem link (located : expression.Located) {link : Link Expression}
    (member : link ∈ expression.links) : link.line? ≠ none := by
  cases located with
  | intro links arguments lines statements => exact links link member

theorem readArgument (located : expression.Located) {argument : Argument Expression}
    (member : argument ∈ expression.readArguments) : argument.Located := by
  obtain ⟨call, consists, inside⟩ := exists_call_of_mem_readArguments member
  exact (located.call consists).1 argument inside

theorem readStatement (located : expression.Located) {statement : Statement Expression}
    (member : statement ∈ expression.readStatements) : statement.Located := by
  obtain ⟨call, consists, closure, inside, deeper⟩ := exists_call_of_mem_readStatements member
  exact (located.call consists).2 closure inside statement deeper

theorem holds (located : expression.Located) (holds : expression.Holds inner) : inner.Located := by
  induction holds with
  | self => exact located
  | inside direct _ ih =>
    apply ih
    rcases List.mem_append.mp (List.mem_filter.mp direct).1 with ofArgument | ofStatement
    · obtain ⟨argument, read, found⟩ := List.mem_filterMap.mp ofArgument
      exact located.readArgument read _ found
    · obtain ⟨statement, read, found⟩ := List.mem_filterMap.mp ofStatement
      exact (located.readStatement read).2 _ found

/-- Where everything has a line, nothing is exempt. -/
theorem complete_iff (located : expression.Located) :
    expression.CompleteWhereLocated ↔ expression.Complete := by
  refine forall_congr' fun inner ↦ forall_congr' fun held ↦ ?_
  have ofInner := located.holds held
  refine and_congr (forall_congr' fun statement ↦ forall_congr' fun member ↦ ?_)
    (forall_congr' fun link ↦ forall_congr' fun member ↦ ?_)
  · exact or_iff_right (ofInner.readStatement member).1
  · exact or_iff_right (ofInner.link member)

end Expression.Located

theorem Call.located_empty : Call.Located {} :=
  ⟨List.forall_mem_nil _, List.forall_mem_nil _⟩

theorem Call.Located.append {first second : Call Expression} (firstLocated : first.Located)
    (secondLocated : second.Located) : (first.append second).Located :=
  ⟨List.forall_mem_append.mpr ⟨firstLocated.1, secondLocated.1⟩,
    List.forall_mem_append.mpr ⟨firstLocated.2, secondLocated.2⟩⟩

end Outline

open ViewPreview.Outline

/-! ## Chains -/

/-- Whether everything in a suffix has a line. -/
def Suffix.Located : Suffix → Prop
  | .member _ => True
  | .call made => made.Located

namespace Suffix

theorem located_labeled {call : Outline.Call Expression} (located : call.Located)
    (label : List Char) : (labeled label call).Located := by
  refine ⟨located.1, ?_⟩
  intro closure member
  obtain ⟨original, inside, rfl⟩ := List.mem_map.mp member
  exact located.2 original inside

variable {parts : List Part}

theorem located_split (located : ∀ part ∈ parts, part.call.Located) :
    ∀ suffix ∈ (split parts).1, suffix.Located := by
  fun_induction split parts with
  | case1 => exact List.forall_mem_nil _
  | case2 => exact List.forall_mem_nil _
  | case3 part => exact List.forall_mem_singleton.mpr (located part List.mem_cons_self)
  | case4 => exact List.forall_mem_nil _
  | case5 part next parts isOptional ih => exact ih (List.forall_mem_cons.mp located).2
  | case6 part next parts notOptional isGroup others ih =>
    obtain ⟨first, rest⟩ := List.forall_mem_cons.mp located
    exact List.forall_mem_cons.mpr ⟨first, ih rest⟩
  | case7 part next parts notOptional noGroup name named isDot others ih =>
    exact List.forall_mem_cons.mpr
      ⟨trivial, ih fun part member ↦ located part (.tail _ (.tail _ member))⟩
  | case8 part next notOptional noGroup label closure rest isColon labels isClosure others noMember
      ih =>
    have ofClosure := located closure (.tail _ (.tail _ (.head _)))
    exact List.forall_mem_cons.mpr ⟨located_labeled ofClosure label,
      ih fun part member ↦ located part (.tail _ (.tail _ (.tail _ member)))⟩
  | case9 => exact List.forall_mem_nil _
  | case10 => exact List.forall_mem_nil _

theorem length_split_le (parts : List Part) : (split parts).2.length ≤ parts.length := by
  fun_induction split parts with
  | case1 => exact Nat.le_refl 0
  | case2 => exact Nat.zero_le 1
  | case3 => exact Nat.zero_le 1
  | case4 => exact Nat.le_refl 1
  | case5 part next parts isOptional ih => exact Nat.le_succ_of_le ih
  | case6 part next parts notOptional isGroup others ih => exact Nat.le_succ_of_le ih
  | case7 part next parts notOptional noGroup name named isDot others ih =>
    exact Nat.le_succ_of_le (Nat.le_succ_of_le ih)
  | case8 part next notOptional noGroup label closure rest isColon labels isClosure others noMember
      ih =>
    exact Nat.le_succ_of_le (Nat.le_succ_of_le (Nat.le_succ_of_le ih))
  | case9 => exact Nat.le_refl _
  | case10 => exact Nat.le_refl _

/-- The call and the links that suffixes make have lines. -/
theorem located_chain (line : Nat) {suffixes : List Suffix}
    (located : ∀ suffix ∈ suffixes, suffix.Located) :
    (∀ call ∈ (chain line suffixes).1, call.Located) ∧
      ∀ link ∈ (chain line suffixes).2, link.line? ≠ none ∧ ∀ call ∈ link.call?, call.Located := by
  induction suffixes with
  | nil => exact ⟨fun _ made ↦ (nomatch made), List.forall_mem_nil _⟩
  | cons suffix suffixes ih =>
    obtain ⟨first, rest⟩ := List.forall_mem_cons.mp located
    obtain ⟨call, links⟩ := ih rest
    have others : ((chain line suffixes).1.getD {}).Located := by
      cases made : (chain line suffixes).1 with
      | none => exact Call.located_empty
      | some made' => exact call made' made
    cases suffix with
    | call made =>
      refine ⟨?_, links⟩
      rintro - ⟨⟩
      exact first.append others
    | member name =>
      refine ⟨fun _ made ↦ (nomatch made), List.forall_mem_cons.mpr ⟨⟨Option.some_ne_none _, ?_⟩, links⟩⟩
      rintro - ⟨⟩
      exact others

end Suffix

section Parts

variable {parts : List Part} {expression : Expression}

theorem located_leadingExpression {rest : List Part} (located : ∀ part ∈ parts, part.call.Located)
    (found : leadingExpression? parts = some (expression, rest)) : expression.Located := by
  cases parts with
  | nil => cases found
  | cons part parts =>
    obtain ⟨name, -, same⟩ := Option.map_eq_some_iff.mp found
    cases same
    have suffixes := Suffix.located_split (List.forall_mem_cons.mp located).2
    obtain ⟨call, links⟩ := Suffix.located_chain part.item.first.line suffixes
    refine Expression.located_of_calls (fun link member ↦ (links link member).1) ?_
    intro made member
    rcases List.mem_append.mp member with ofHead | ofLink
    · exact call made (Option.mem_toList.mp ofHead)
    · obtain ⟨link, inside, makes⟩ := List.mem_filterMap.mp ofLink
      exact (links link inside).2 made makes

theorem located_wholeExpression (located : ∀ part ∈ parts, part.call.Located)
    (found : wholeExpression? parts = some expression) : expression.Located := by
  rw [wholeExpression?] at found
  split at found
  · next whole =>
    cases found
    exact located_leadingExpression located whole
  · cases found

theorem located_statementExpression (located : ∀ part ∈ parts, part.call.Located)
    (found : statementExpression? parts = some expression) : expression.Located := by
  unfold statementExpression? at found
  split at found
  · split at found
    · exact located_wholeExpression (List.forall_mem_cons.mp located).2 found
    · exact located_wholeExpression located found
  · exact located_wholeExpression located found

theorem length_leadingExpression_lt {rest : List Part}
    (found : leadingExpression? parts = some (expression, rest)) : rest.length < parts.length := by
  cases parts with
  | nil => cases found
  | cons part parts =>
    obtain ⟨name, -, same⟩ := Option.map_eq_some_iff.mp found
    cases same
    exact Nat.lt_succ_of_le (Suffix.length_split_le parts)

/-- What is kept of a statement before another one on its line are its first parts, at least one of
them. -/
theorem exists_beforeJoined (nonempty : parts ≠ []) :
    ∃ count, 0 < count ∧ beforeJoined parts = parts.take count := by
  have whole : ∃ count, 0 < count ∧ parts = parts.take count :=
    ⟨parts.length, List.length_pos_iff.mpr nonempty, List.take_length.symm⟩
  rw [beforeJoined]
  split
  · next expression rest found =>
    have shorter := length_leadingExpression_lt found
    simp only
    split
    · exact ⟨parts.length - rest.length, Nat.sub_pos_of_lt shorter, rfl⟩
    · exact whole
  · exact whole

/-- A statement has the line of its first part. -/
theorem located_statementOutline (nonempty : parts ≠ [])
    (located : ∀ part ∈ parts, part.call.Located) : (statementOutline parts).Located := by
  obtain ⟨count, positive, kept⟩ := exists_beforeJoined nonempty
  rw [statementOutline, kept]
  refine ⟨?_, fun inner found ↦ located_statementExpression ?_ found⟩
  · obtain ⟨part, rest, rfl⟩ := List.exists_cons_of_ne_nil nonempty
    obtain ⟨count, rfl⟩ := Nat.exists_eq_succ_of_ne_zero (Nat.pos_iff_ne_zero.mp positive)
    exact Option.some_ne_none _
  · exact fun part member ↦ located part (List.mem_of_mem_take member)

theorem located_statementOutlines (located : ∀ part ∈ parts, part.call.Located) :
    ∀ statement ∈ (statementsOf .block Part.item parts).map statementOutline, statement.Located := by
  intro statement member
  obtain ⟨own, cut, rfl⟩ := List.mem_map.mp member
  exact located_statementOutline (ne_nil_of_mem_statementsOf _ _ cut) fun part inside ↦
    located part (mem_of_mem_statementsOf _ _ cut inside)

theorem mem_of_mem_splitClosure {part : Part} (member : part ∈ (splitClosure parts).2) :
    part ∈ parts := by
  rw [splitClosure] at member
  split at member
  · exact List.mem_of_mem_drop member
  · exact member

theorem located_closureOutline (located : ∀ part ∈ parts, part.call.Located) :
    (closureOutline parts).Located :=
  located_statementOutlines fun part member ↦ located part (mem_of_mem_splitClosure member)

/-! ## Arguments -/

theorem mem_of_mem_splitCommas {α : Type} {item : α → Item} {parts list : List α} {part : α}
    (member : list ∈ splitCommas item parts) (inside : part ∈ list) : part ∈ parts := by
  induction parts generalizing list with
  | nil =>
    rw [List.mem_singleton.mp member] at inside
    cases inside
  | cons head parts ih =>
    rw [splitCommas] at member
    split at member
    · rcases List.mem_cons.mp member with rfl | later
      · cases inside
      · exact .tail _ (ih later inside)
    · split at member
      · rw [List.mem_singleton.mp member] at inside
        rw [List.mem_singleton.mp inside]
        exact List.mem_cons_self
      · next first others same =>
        rcases List.mem_cons.mp member with rfl | later
        · rcases List.mem_cons.mp inside with rfl | deeper
          · exact List.mem_cons_self
          · exact .tail _ (ih (same ▸ List.mem_cons_self) deeper)
        · exact .tail _ (ih (same ▸ List.mem_cons_of_mem _ later) inside)

theorem mem_of_mem_argumentValue {part : Part} (member : part ∈ argumentValue parts) :
    part ∈ parts := by
  unfold argumentValue at member
  split at member
  · split at member
    · exact .tail _ (.tail _ member)
    · exact member
  · exact member

theorem located_argumentOutline (located : ∀ part ∈ parts, part.call.Located) :
    (argumentOutline parts).1.Located ∧
      ∀ closure ∈ (argumentOutline parts).2, closure.Located := by
  have value : ∀ part ∈ argumentValue parts, part.call.Located := fun part member ↦
    located part (mem_of_mem_argumentValue member)
  refine ⟨fun inner found ↦ located_wholeExpression value found, ?_⟩
  intro closure made
  obtain ⟨original, found, rfl⟩ := Option.map_eq_some_iff.mp made
  split at found
  · next part single =>
    split at found
    · refine (value part ?_).2 original (List.mem_of_mem_head? found)
      rw [single]
      exact List.mem_cons_self
    · cases found
  · cases found

theorem located_argumentsCall (located : ∀ part ∈ parts, part.call.Located) :
    (argumentsCall parts).Located := by
  have each : ∀ made ∈ ((splitCommas Part.item parts).filter fun part ↦ !part.isEmpty).map
      ViewPreview.argumentOutline, made.1.Located ∧ ∀ closure ∈ made.2, closure.Located := by
    intro made member
    obtain ⟨list, cut, rfl⟩ := List.mem_map.mp member
    exact located_argumentOutline fun part inside ↦
      located part (mem_of_mem_splitCommas (List.mem_filter.mp cut).1 inside)
  constructor
  · intro argument member
    obtain ⟨made, inside, rfl⟩ := List.mem_map.mp member
    exact (each made inside).1
  · intro closure member
    obtain ⟨made, inside, same⟩ := List.mem_filterMap.mp member
    exact (each made inside).2 closure same

end Parts

/-! ## Groups -/

theorem located_groupPart {parts : List Part} (opening : Token) (items : List Item)
    (closing : Option Token) (located : ∀ part ∈ parts, part.call.Located) :
    (groupPart opening items closing parts).call.Located := by
  rw [groupPart]
  split
  · exact ⟨List.forall_mem_nil _, List.forall_mem_singleton.mpr (located_closureOutline located)⟩
  · exact located_argumentsCall located

mutual

theorem Item.located_part : (item : Item) → item.part.call.Located
  | .single token => by
    rw [Item.part]
    exact Call.located_empty
  | .group opening items closing => by
    rw [Item.part]
    exact located_groupPart opening items closing (located_partsOf items)

theorem located_partsOf : (items : List Item) → ∀ part ∈ partsOf items, part.call.Located
  | [] => by
    rw [partsOf]
    exact List.forall_mem_nil _
  | item :: items => by
    rw [partsOf]
    exact List.forall_mem_cons.mpr ⟨item.located_part, located_partsOf items⟩

end

/-- Everything in the expression of a getter has a line. -/
theorem located_getter {source : List Char} {unbalanced : Bool} {parts first : List Part}
    {others : List (List Part)} {expression : Expression}
    (found : getterParts? source = some (unbalanced, parts))
    (cut : statementsOf .block Part.item parts = first :: others)
    (read : (statementOutline first).expression = some expression) : expression.Located := by
  simp only [getterParts?, Option.bind_eq_bind, Option.bind_eq_some_iff] at found
  obtain ⟨declaration, isDeclaration, property, isProperty, computed, isComputed, same⟩ := found
  cases same
  have member : first ∈ statementsOf .block Part.item (partsOf (getterBody computed)) := by
    rw [cut]
    exact List.mem_cons_self
  have statements := located_statementOutlines (located_partsOf (getterBody computed))
  exact (statements _ (List.mem_map_of_mem member)).2 expression read

end ViewPreview
