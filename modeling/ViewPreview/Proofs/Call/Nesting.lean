import ViewPreview.Call.Nesting

/-!
# Balanced Passages and Passages Without Separators

A passage is balanced in a pair of brackets when the search for a closing bracket goes through it
and comes out at the depth at which it went in.  Likewise a splitting that enters a passage at one
place and leaves it at another finds no separator in between.  Both are stated for whatever text
comes behind the passage, so they are kept when passages are put together.
-/

namespace ViewPreview.Call

open ViewPreview.Text

/-! ## The search for a closing bracket -/

section Search

variable {opening closing : Char} (depth : Nat) (text : List Char)

theorem splitClosing?_opening :
    splitClosing? opening closing depth (opening :: text) =
      (splitClosing? opening closing (depth + 1) text).map (Prod.map (List.cons opening) id) := by
  rw [splitClosing?.eq_def]
  exact if_pos rfl

theorem splitClosing?_closing_zero (distinct : closing ≠ opening) :
    splitClosing? opening closing 0 (closing :: text) = some ([], text) := by
  rw [splitClosing?.eq_def]
  exact (if_neg distinct).trans (if_pos rfl)

theorem splitClosing?_closing_succ (distinct : closing ≠ opening) :
    splitClosing? opening closing (depth + 1) (closing :: text) =
      (splitClosing? opening closing depth text).map (Prod.map (List.cons closing) id) := by
  rw [splitClosing?.eq_def]
  exact (if_neg distinct).trans (if_pos rfl)

theorem splitClosing?_cons {c : Char} (noOpening : c ≠ opening) (noClosing : c ≠ closing) :
    splitClosing? opening closing depth (c :: text) =
      (splitClosing? opening closing depth text).map (Prod.map (List.cons c) id) := by
  rw [splitClosing?.eq_def]
  exact (if_neg noOpening).trans (if_neg noClosing)

end Search

/-! ## Balanced passages -/

/-- Whether the search for a closing bracket passes over a passage. -/
def Balanced (opening closing : Char) (passage : List Char) : Prop :=
  ∀ depth rest, splitClosing? opening closing depth (passage ++ rest) =
    (splitClosing? opening closing depth rest).map (Prod.map (passage ++ ·) id)

section Balanced

variable {opening closing : Char} {passage first second : List Char}

theorem balanced_nil : Balanced opening closing [] := by
  intro depth rest
  exact Option.map_id'.symm

theorem Balanced.append (front : Balanced opening closing first)
    (back : Balanced opening closing second) : Balanced opening closing (first ++ second) := by
  intro depth rest
  rw [List.append_assoc, front, back, Option.map_map]
  congr 1
  funext parts
  simp only [Function.comp_apply, Prod.map, id_eq, List.append_assoc]

theorem balanced_singleton {c : Char} (noOpening : c ≠ opening) (noClosing : c ≠ closing) :
    Balanced opening closing [c] := by
  intro depth rest
  exact splitClosing?_cons depth rest noOpening noClosing

theorem balanced_of_forall (all : ∀ c ∈ passage, c ≠ opening ∧ c ≠ closing) :
    Balanced opening closing passage := by
  induction passage with
  | nil => exact balanced_nil
  | cons c passage ih =>
    obtain ⟨⟨noOpening, noClosing⟩, others⟩ := List.forall_mem_cons.mp all
    exact (balanced_singleton noOpening noClosing).append (ih others)

theorem balanced_of_all (plain : (passage.all fun c ↦ c != opening && c != closing) = true) :
    Balanced opening closing passage := by
  apply balanced_of_forall
  intro c member
  simpa using List.all_eq_true.mp plain c member

/-- A balanced passage in a pair of brackets is balanced. -/
theorem Balanced.enclosed (inside : Balanced opening closing passage)
    (distinct : closing ≠ opening) :
    Balanced opening closing (opening :: (passage ++ [closing])) := by
  intro depth rest
  rw [List.cons_append, List.append_assoc, splitClosing?_opening, inside, List.singleton_append,
    splitClosing?_closing_succ depth rest distinct, Option.map_map, Option.map_map]
  congr 1
  funext parts
  simp only [Function.comp_apply, Prod.map, id_eq, List.cons_append, List.append_assoc,
    List.nil_append]

/-- A bracket is closed by the one that follows a balanced passage. -/
theorem Balanced.splitClosing?_eq (inside : Balanced opening closing passage)
    (distinct : closing ≠ opening) (rest : List Char) :
    splitClosing? opening closing 0 (passage ++ closing :: rest) = some (passage, rest) := by
  rw [inside, splitClosing?_closing_zero rest distinct]
  simp only [Option.map_some, Prod.map_apply, id_eq, List.append_nil]

end Balanced

/-! ## Where the closing bracket is found -/

section Found

variable {opening closing : Char} {depth : Nat} {text inner rest front inserted : List Char}

/-- What stands before and after the bracket that is found makes up the text. -/
theorem append_of_splitClosing?
    (split : splitClosing? opening closing depth text = some (inner, rest)) :
    text = inner ++ closing :: rest := by
  fun_induction splitClosing? opening closing depth text generalizing inner with
  | case1 => cases split
  | case2 depth text ih =>
    obtain ⟨⟨left, right⟩, found, same⟩ := Option.map_eq_some_iff.mp split
    cases same
    exact congrArg (opening :: ·) (ih found)
  | case3 text distinct =>
    cases split
    rfl
  | case4 text depth distinct ih =>
    obtain ⟨⟨left, right⟩, found, same⟩ := Option.map_eq_some_iff.mp split
    cases same
    exact congrArg (closing :: ·) (ih found)
  | case5 depth c text noOpening noClosing ih =>
    obtain ⟨⟨left, right⟩, found, same⟩ := Option.map_eq_some_iff.mp split
    cases same
    exact congrArg (c :: ·) (ih found)

/-- The bracket that is found is found whatever follows it. -/
theorem splitClosing?_of_some
    (split : splitClosing? opening closing depth text = some (inner, rest)) (other : List Char) :
    splitClosing? opening closing depth (inner ++ closing :: other) = some (inner, other) := by
  fun_induction splitClosing? opening closing depth text generalizing inner with
  | case1 => cases split
  | case2 depth text ih =>
    obtain ⟨⟨left, right⟩, found, same⟩ := Option.map_eq_some_iff.mp split
    cases same
    rw [List.cons_append, splitClosing?_opening, ih found]
    rfl
  | case3 text distinct =>
    cases split
    exact splitClosing?_closing_zero _ distinct
  | case4 text depth distinct ih =>
    obtain ⟨⟨left, right⟩, found, same⟩ := Option.map_eq_some_iff.mp split
    cases same
    rw [List.cons_append, splitClosing?_closing_succ _ _ distinct, ih found]
    rfl
  | case5 depth c text noOpening noClosing ih =>
    obtain ⟨⟨left, right⟩, found, same⟩ := Option.map_eq_some_iff.mp split
    cases same
    rw [List.cons_append, splitClosing?_cons _ _ noOpening noClosing, ih found]
    rfl

/-- A bracket that is found in a text is found in a longer one. -/
theorem splitClosing?_append
    (split : splitClosing? opening closing depth text = some (inner, rest)) (more : List Char) :
    splitClosing? opening closing depth (text ++ more) = some (inner, rest ++ more) := by
  rw [append_of_splitClosing? split, List.append_assoc, List.cons_append]
  exact splitClosing?_of_some split (rest ++ more)

/-- A search that finds nothing in a text goes on behind it at some depth. -/
theorem exists_splitClosing?_append (stuck : splitClosing? opening closing depth front = none) :
    ∃ deeper, ∀ rest, splitClosing? opening closing depth (front ++ rest) =
      (splitClosing? opening closing deeper rest).map (Prod.map (front ++ ·) id) := by
  fun_induction splitClosing? opening closing depth front with
  | case1 depth => exact ⟨depth, fun rest ↦ balanced_nil depth rest⟩
  | case2 depth text ih =>
    obtain ⟨deeper, goesOn⟩ := ih (Option.map_eq_none_iff.mp stuck)
    refine ⟨deeper, fun rest ↦ ?_⟩
    rw [List.cons_append, splitClosing?_opening, goesOn, Option.map_map]
    rfl
  | case3 text distinct => cases stuck
  | case4 text depth distinct ih =>
    obtain ⟨deeper, goesOn⟩ := ih (Option.map_eq_none_iff.mp stuck)
    refine ⟨deeper, fun rest ↦ ?_⟩
    rw [List.cons_append, splitClosing?_closing_succ _ _ distinct, goesOn, Option.map_map]
    rfl
  | case5 depth c text noOpening noClosing ih =>
    obtain ⟨deeper, goesOn⟩ := ih (Option.map_eq_none_iff.mp stuck)
    refine ⟨deeper, fun rest ↦ ?_⟩
    rw [List.cons_append, splitClosing?_cons _ _ noOpening noClosing, goesOn, Option.map_map]
    rfl

/-- Nothing before the bracket that is found closes it. -/
theorem splitClosing?_eq_none_of_append {back : List Char}
    (split : splitClosing? opening closing depth (front ++ rest) = some (front ++ inner, back)) :
    splitClosing? opening closing depth front = none := by
  cases found : splitClosing? opening closing depth front with
  | none => rfl
  | some parts =>
    obtain ⟨before, after⟩ := parts
    have early := splitClosing?_append found rest
    rw [split] at early
    have shape := congrArg List.length (append_of_splitClosing? found)
    have same := congrArg (fun parts ↦ (Option.map (List.length ∘ Prod.fst) parts).getD 0) early
    simp only [Option.map_some, Option.getD_some, Function.comp_apply, List.length_append,
      List.length_cons] at same shape
    omega

/-- Inserting a balanced passage before the bracket that is found changes nothing else. -/
theorem splitClosing?_insert {back : List Char} (balanced : Balanced opening closing inserted)
    (split : splitClosing? opening closing depth (front ++ rest) = some (front ++ inner, back)) :
    splitClosing? opening closing depth (front ++ (inserted ++ rest)) =
      some (front ++ (inserted ++ inner), back) := by
  obtain ⟨deeper, goesOn⟩ := exists_splitClosing?_append (splitClosing?_eq_none_of_append split)
  rw [goesOn] at split
  obtain ⟨⟨found, after⟩, foundAfter, same⟩ := Option.map_eq_some_iff.mp split
  obtain ⟨rfl, rfl⟩ : found = inner ∧ after = back :=
    ⟨List.append_cancel_left (congrArg Prod.fst same), congrArg Prod.snd same⟩
  rw [goesOn, balanced, foundAfter]
  rfl

theorem splitClosing?_insert_eq_none (balanced : Balanced opening closing inserted)
    (stuck : splitClosing? opening closing depth (front ++ rest) = none) :
    splitClosing? opening closing depth (front ++ (inserted ++ rest)) = none := by
  have unclosed : splitClosing? opening closing depth front = none := by
    rw [Option.eq_none_iff_forall_ne_some]
    intro parts found
    rw [splitClosing?_append found rest] at stuck
    cases stuck
  obtain ⟨deeper, goesOn⟩ := exists_splitClosing?_append unclosed
  rw [goesOn, Option.map_eq_none_iff] at stuck
  rw [goesOn, balanced, stuck]
  rfl

end Found

/-! ## Passages without separators -/

/-- Whether a splitting that enters a passage at one place leaves it at another, without finding a
separator in it. -/
def Unsplit (separator : Char) (start finish : Place) (passage : List Char) : Prop :=
  ∀ rest, splitFrom separator start (passage ++ rest) =
    (splitFrom separator finish rest).modifyHead (passage ++ ·)

section Unsplit

variable {separator : Char} {start middle finish : Place} {passage first second : List Char}

theorem splitFrom_ne_nil (separator : Char) (place : Place) (text : List Char) :
    splitFrom separator place text ≠ [] := by
  cases text with
  | nil => exact List.cons_ne_nil _ _
  | cons c text =>
    rw [splitFrom]
    split
    · exact List.cons_ne_nil _ _
    · split
      · exact List.cons_ne_nil _ _
      · exact List.cons_ne_nil _ _

theorem unsplit_nil : Unsplit separator start start [] := by
  intro rest
  exact (congrFun List.modifyHead_id _).symm

theorem Unsplit.append (front : Unsplit separator start middle first)
    (back : Unsplit separator middle finish second) :
    Unsplit separator start finish (first ++ second) := by
  intro rest
  rw [List.append_assoc, front, back, List.modifyHead_modifyHead]
  congr 1
  funext part
  exact (List.append_assoc first second part).symm

/-- A character that does not separate at a place is passed over. -/
theorem unsplit_singleton {c : Char}
    (inseparable : (start.isTop && c == separator && !isDelimiter c) = false) :
    Unsplit separator start (start.after c) [c] := by
  intro rest
  rw [List.singleton_append, splitFrom, inseparable, if_neg Bool.false_ne_true]
  cases parts : splitFrom separator (start.after c) rest with
  | nil => exact absurd parts (splitFrom_ne_nil separator _ rest)
  | cons part parts => rfl

/-- Characters that neither separate nor move a place are passed over. -/
theorem unsplit_of_forall
    (all : ∀ c ∈ passage,
      (start.isTop && c == separator && !isDelimiter c) = false ∧ start.after c = start) :
    Unsplit separator start start passage := by
  induction passage with
  | nil => exact unsplit_nil
  | cons c passage ih =>
    obtain ⟨⟨inseparable, stays⟩, others⟩ := List.forall_mem_cons.mp all
    have first := unsplit_singleton inseparable
    rw [stays] at first
    exact first.append (ih others)

/-- A text that nothing separates is a single part. -/
theorem Unsplit.splitFrom_eq (whole : Unsplit separator start finish passage) :
    splitFrom separator start passage = [passage] := by
  have split := whole []
  rw [List.append_nil] at split
  rw [split]
  show [passage ++ []] = [passage]
  rw [List.append_nil]

/-- A separator that is not nested ends a part. -/
theorem Unsplit.splitFrom_append (front : Unsplit separator start finish passage)
    (top : finish.isTop = true) (visible : isDelimiter separator = false) (rest : List Char) :
    splitFrom separator start (passage ++ separator :: rest) =
      passage :: splitFrom separator finish rest := by
  rw [front, splitFrom, top, visible, beq_self_eq_true]
  show (passage ++ []) :: _ = _
  rw [List.append_nil]

end Unsplit

/-! ## Quoted and bracketed passages -/

theorem after_outside {c : Char} (plain : isDelimiter c = false) (depth : Int) :
    Place.after ⟨.outside, depth⟩ c = ⟨.outside, depth⟩ := by
  simp only [isDelimiter, Bool.or_eq_false_iff, beq_eq_false_iff_ne] at plain
  obtain ⟨⟨⟨⟨⟨⟨quote, round⟩, square⟩, brace⟩, round'⟩, square'⟩, brace'⟩ := plain
  simp only [Place.after, quote, round, square, brace, round', square', brace', decide_false,
    Bool.or_self, if_false, Bool.false_eq_true]

theorem after_inside {c : Char} (noBackslash : c ≠ '\\') (noQuote : c ≠ '"') (depth : Int) :
    Place.after ⟨.inside, depth⟩ c = ⟨.inside, depth⟩ := by
  simp only [Place.after, noBackslash, noQuote, if_false]

/-- A passage without delimiters is nested as deep at its end as at its start.  It must not hold the
separator unless it is nested in brackets. -/
theorem unsplit_plain {separator : Char} {depth : Int} {passage : List Char}
    (plain : ∀ c ∈ passage, isDelimiter c = false) (inner : depth ≠ 0 ∨ separator ∉ passage) :
    Unsplit separator ⟨.outside, depth⟩ ⟨.outside, depth⟩ passage := by
  apply unsplit_of_forall
  intro c member
  refine ⟨?_, after_outside (plain c member) depth⟩
  rcases inner with nested | absent
  · have below : Place.isTop ⟨.outside, depth⟩ = false := by
      rw [Place.isTop, Bool.and_eq_false_iff]
      exact Or.inr (beq_eq_false_iff_ne.mpr nested)
    rw [below, Bool.false_and, Bool.false_and]
  · have other : (c == separator) = false := by
      rw [beq_eq_false_iff_ne]
      intro same
      exact absent (same ▸ member)
    rw [other, Bool.and_false, Bool.false_and]

/-- Nothing separates between brackets when nothing does so one level deeper. -/
theorem unsplit_enclosed {separator opening closing : Char} {inner : List Char} {depth : Int}
    (opens : Place.after ⟨.outside, depth⟩ opening = ⟨.outside, depth + 1⟩)
    (closes : Place.after ⟨.outside, depth + 1⟩ closing = ⟨.outside, depth + 1 - 1⟩)
    (delimiters : isDelimiter opening = true ∧ isDelimiter closing = true)
    (inside : Unsplit separator ⟨.outside, depth + 1⟩ ⟨.outside, depth + 1⟩ inner) :
    Unsplit separator ⟨.outside, depth⟩ ⟨.outside, depth⟩ (opening :: (inner ++ [closing])) := by
  have first : Unsplit separator ⟨.outside, depth⟩ ⟨.outside, depth + 1⟩ [opening] := by
    rw [← opens]
    exact unsplit_singleton (by rw [delimiters.1, Bool.not_true, Bool.and_false])
  have last : Unsplit separator ⟨.outside, depth + 1⟩ ⟨.outside, depth⟩ [closing] := by
    have passed : Unsplit separator ⟨.outside, depth + 1⟩
        (Place.after ⟨.outside, depth + 1⟩ closing) [closing] :=
      unsplit_singleton (by rw [delimiters.2, Bool.not_true, Bool.and_false])
    rwa [closes, Int.add_sub_cancel] at passed
  exact first.append (inside.append last)

/-- Nothing separates inside square brackets. -/
theorem unsplit_bracketed {separator : Char} {content : List Char} {depth : Int}
    (nested : 0 ≤ depth) (plain : ∀ c ∈ content, isDelimiter c = false) :
    Unsplit separator ⟨.outside, depth⟩ ⟨.outside, depth⟩ ('[' :: (content ++ [']'])) :=
  unsplit_enclosed rfl rfl ⟨rfl, rfl⟩ (unsplit_plain plain (Or.inl (by omega)))

end ViewPreview.Call
