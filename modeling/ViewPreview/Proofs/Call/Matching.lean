import ViewPreview.Proofs.Call.Nesting

/-!
# Matching Brackets

The search for a closing bracket counts the brackets of its pair wherever they stand.  It comes out
behind a text exactly when, counted in this way, the brackets of the text match.  A text whose
brackets are nested properly outside of its string literals has matching brackets as soon as each of
its literals has; a literal that holds one bracket alone may spoil this.
-/

namespace ViewPreview.Call

open ViewPreview.Text

/-! ## Counting brackets -/

/-- A text in which no bracket is closed before it is opened and all are closed in the end.  Every
bracket of the pair counts, also inside string literals. -/
structure Matched (opening closing : Char) (text : List Char) : Prop where
  covered : ∀ front, front <+: text → front.count closing ≤ front.count opening
  settled : text.count closing = text.count opening

section Counting

variable {opening closing : Char} {text rest : List Char} {depth : Nat}

/-- A text that never closes more brackets than have been opened is passed over. -/
theorem splitClosing?_append_of_covered (distinct : closing ≠ opening)
    (covered : ∀ front, front <+: text → front.count closing ≤ depth + front.count opening) :
    splitClosing? opening closing depth (text ++ rest) =
      (splitClosing? opening closing (depth + text.count opening - text.count closing) rest).map
        (Prod.map (text ++ ·) id) := by
  induction text generalizing depth with
  | nil => exact Option.map_id'.symm
  | cons c text ih =>
    have behind (front : List Char) (starts : front <+: text) :
        (c :: front).count closing ≤ depth + (c :: front).count opening :=
      covered _ ((List.prefix_cons_inj c).mpr starts)
    rw [List.cons_append]
    by_cases opens : c = opening
    · subst opens
      rw [splitClosing?_opening, ih, Option.map_map, List.count_cons_self,
        List.count_cons_of_ne distinct.symm, Nat.add_right_comm, Nat.add_assoc]
      · rfl
      · intro front starts
        have counted := behind front starts
        rw [List.count_cons_self, List.count_cons_of_ne distinct.symm] at counted
        omega
    · by_cases closes : c = closing
      · subst closes
        have here := behind [] List.nil_prefix
        rw [List.count_cons_self, List.count_cons_of_ne distinct, List.count_nil,
          List.count_nil] at here
        obtain ⟨less, rfl⟩ := Nat.exists_eq_add_of_le' here
        rw [splitClosing?_closing_succ _ _ distinct, ih, Option.map_map, List.count_cons_self,
          List.count_cons_of_ne distinct, Nat.add_right_comm, Nat.add_sub_add_right]
        · rfl
        · intro front starts
          have counted := behind front starts
          rw [List.count_cons_self, List.count_cons_of_ne distinct] at counted
          omega
      · rw [splitClosing?_cons _ _ opens closes, ih, Option.map_map, List.count_cons_of_ne opens,
          List.count_cons_of_ne closes]
        · rfl
        · intro front starts
          have counted := behind front starts
          rwa [List.count_cons_of_ne opens, List.count_cons_of_ne closes] at counted

/-- Up to the bracket that is found, no more brackets are closed than have been opened. -/
theorem covered_of_splitClosing? (distinct : closing ≠ opening)
    (found : splitClosing? opening closing depth (text ++ closing :: rest) = some (text, rest)) :
    (∀ front, front <+: text → front.count closing ≤ depth + front.count opening) ∧
      text.count closing = depth + text.count opening := by
  induction text generalizing depth with
  | nil =>
    cases depth with
    | zero => exact ⟨fun front starts ↦ by rw [List.prefix_nil.mp starts]; exact Nat.le_refl _, rfl⟩
    | succ depth =>
      rw [List.nil_append, splitClosing?_closing_succ _ _ distinct] at found
      obtain ⟨parts, -, same⟩ := Option.map_eq_some_iff.mp found
      exact absurd (congrArg Prod.fst same) (List.cons_ne_nil _ _)
  | cons c text ih =>
    -- A bracket in front of the text changes the depth and the counts alike.
    have extend {deeper : Nat}
        (counts : ∀ front : List Char, depth + (c :: front).count opening + front.count closing =
          deeper + front.count opening + (c :: front).count closing)
        (search : (splitClosing? opening closing deeper (text ++ closing :: rest)).map
          (Prod.map (List.cons c) id) = some (c :: text, rest)) :
        (∀ front, front <+: c :: text → front.count closing ≤ depth + front.count opening) ∧
          (c :: text).count closing = depth + (c :: text).count opening := by
      obtain ⟨⟨inner, after⟩, behind, same⟩ := Option.map_eq_some_iff.mp search
      cases same
      obtain ⟨covered, settled⟩ := ih behind
      refine ⟨fun front starts ↦ ?_, ?_⟩
      · rcases List.prefix_cons_iff.mp starts with rfl | ⟨front, rfl, within⟩
        · exact Nat.zero_le _
        · have := covered front within
          have := counts front
          omega
      · have := counts text
        omega
    rw [List.cons_append] at found
    by_cases opens : c = opening
    · subst opens
      rw [splitClosing?_opening] at found
      refine extend (fun front ↦ ?_) found
      rw [List.count_cons_self, List.count_cons_of_ne distinct.symm]
      omega
    · by_cases closes : c = closing
      · subst closes
        cases depth with
        | zero =>
          rw [splitClosing?_closing_zero _ distinct] at found
          cases found
        | succ depth =>
          rw [splitClosing?_closing_succ _ _ distinct] at found
          refine extend (fun front ↦ ?_) found
          rw [List.count_cons_self, List.count_cons_of_ne distinct]
          omega
      · rw [splitClosing?_cons _ _ opens closes] at found
        refine extend (fun front ↦ ?_) found
        rw [List.count_cons_of_ne opens, List.count_cons_of_ne closes]

/-- A bracket is closed behind a text exactly when the brackets of the text match. -/
theorem splitClosing?_eq_some_iff_matched (distinct : closing ≠ opening) :
    splitClosing? opening closing 0 (text ++ closing :: rest) = some (text, rest) ↔
      Matched opening closing text := by
  constructor
  · intro found
    obtain ⟨covered, settled⟩ := covered_of_splitClosing? distinct found
    simp only [Nat.zero_add] at covered settled
    exact ⟨covered, settled⟩
  · intro matched
    have covered (front : List Char) (starts : front <+: text) :
        front.count closing ≤ 0 + front.count opening := by
      rw [Nat.zero_add]
      exact matched.covered front starts
    rw [splitClosing?_append_of_covered distinct covered, matched.settled, Nat.add_sub_cancel,
      splitClosing?_closing_zero _ distinct]
    simp only [Option.map_some, Prod.map_apply, id_eq, List.append_nil]

theorem balanced_iff_matched (distinct : closing ≠ opening) :
    Balanced opening closing text ↔ Matched opening closing text := by
  constructor
  · intro balanced
    exact (splitClosing?_eq_some_iff_matched distinct).mp (balanced.splitClosing?_eq distinct [])
  · intro matched depth rest
    have covered (front : List Char) (starts : front <+: text) :
        front.count closing ≤ depth + front.count opening :=
      Nat.le_add_left_of_le (matched.covered front starts)
    rw [splitClosing?_append_of_covered distinct covered, matched.settled, Nat.add_sub_cancel]

end Counting

/-! ## Brackets outside of string literals -/

/-- A text whose brackets of all kinds are nested properly, those inside string literals apart.  The
contents of the literals satisfy a condition. -/
inductive Bracketed (content : List Char → Prop) : List Char → Prop
  | nil : Bracketed content []
  | plain {c : Char} {text : List Char} (ordinary : isDelimiter c = false)
      (behind : Bracketed content text) : Bracketed content (c :: text)
  | quoted {inner text : List Char} (whole : quotedContent? (inner ++ ['"']) = some inner)
      (inside : content inner) (behind : Bracketed content text) :
      Bracketed content ('"' :: (inner ++ '"' :: text))
  | group {opening closing : Char} {inner text : List Char}
      (pair : (opening, closing) ∈ [('(', ')'), ('[', ']'), ('{', '}')])
      (inside : Bracketed content inner) (behind : Bracketed content text) :
      Bracketed content (opening :: (inner ++ closing :: text))

/-- Two kinds of brackets are the same or have no bracket in common. -/
theorem eq_or_disjoint_of_pairs :
    ∀ pair ∈ [('(', ')'), ('[', ']'), ('{', '}')], ∀ other ∈ [('(', ')'), ('[', ']'), ('{', '}')],
      pair = other ∨ (pair.1 ≠ other.1 ∧ pair.1 ≠ other.2) ∧ pair.2 ≠ other.1 ∧ pair.2 ≠ other.2 := by
  decide

/-- The brackets of a kind are distinct and no quotes. -/
theorem distinct_of_pair :
    ∀ pair ∈ [('(', ')'), ('[', ']'), ('{', '}')],
      pair.2 ≠ pair.1 ∧ isDelimiter pair.1 = true ∧ isDelimiter pair.2 = true ∧
        '"' ≠ pair.1 ∧ '"' ≠ pair.2 := by
  decide

theorem bracketed_of_all {content : List Char → Prop} {text : List Char}
    (ordinary : (text.all fun c ↦ !isDelimiter c) = true) : Bracketed content text := by
  induction text with
  | nil => exact .nil
  | cons c text ih =>
    rw [List.all_cons, Bool.and_eq_true, Bool.not_eq_true'] at ordinary
    exact .plain ordinary.1 (ih ordinary.2)

/-- The brackets of a kind match in a text whose brackets are nested properly outside of its
literals when they match in each literal. -/
theorem Bracketed.matched_pair {opening closing : Char}
    (kind : (opening, closing) ∈ [('(', ')'), ('[', ']'), ('{', '}')]) {text : List Char}
    (bracketed : Bracketed (Matched opening closing) text) : Matched opening closing text := by
  obtain ⟨distinct, opens, closes, noOpening, noClosing⟩ := distinct_of_pair _ kind
  rw [← balanced_iff_matched distinct]
  induction bracketed with
  | nil => exact balanced_nil
  | @plain c text ordinary behind ih =>
    have other {d : Char} (delimiter : isDelimiter d = true) : c ≠ d := fun same ↦ by
      rw [same, delimiter] at ordinary
      exact Bool.noConfusion ordinary
    exact (balanced_singleton (other opens) (other closes)).append ih
  | @quoted inner text whole inside behind ih =>
    have quote : Balanced opening closing ['"'] := balanced_singleton noOpening noClosing
    have literal := (quote.append ((balanced_iff_matched distinct).mpr inside)).append quote
    have text := literal.append ih
    rwa [List.append_assoc, List.append_assoc] at text
  | @group first last inner text pair inside behind ihInside ih =>
    have enclosed : Balanced opening closing (first :: (inner ++ [last])) := by
      rcases eq_or_disjoint_of_pairs _ pair _ kind with same | ⟨otherFirst, otherLast⟩
      · cases same
        exact ihInside.enclosed distinct
      · exact (balanced_singleton otherFirst.1 otherFirst.2).append
          (ihInside.append (balanced_singleton otherLast.1 otherLast.2))
    have text := enclosed.append ih
    rwa [List.cons_append, List.append_assoc] at text

/-- Parentheses match in a text whose brackets are nested properly outside of its literals when they
match in each literal. -/
theorem Bracketed.matched {text : List Char} (bracketed : Bracketed (Matched '(' ')') text) :
    Matched '(' ')' text :=
  bracketed.matched_pair (by decide)

end ViewPreview.Call
