import ViewPreview.Text.Line

/-!
# Runs of Characters, Trimmed Texts and Line Feeds

A run of characters that satisfy a condition is split off the start of a text when it stops there:
the text goes on with a character that does not satisfy the condition, or not at all.  Trimming a
text whose first and last characters are no blanks changes nothing.  The line feeds of a text are
those of its parts.
-/

namespace ViewPreview.Text

/-! ## Runs -/

/-- Whether a run of characters that satisfy a condition cannot go on into a text. -/
def Stops (condition : Char → Bool) (rest : List Char) : Prop :=
  ∀ c ∈ rest.head?, condition c = false

theorem stops_nil (condition : Char → Bool) : Stops condition [] := by
  intro c member
  exact absurd member (Option.not_mem_none c)

theorem stops_cons {condition : Char → Bool} {c : Char} {rest : List Char} :
    Stops condition (c :: rest) ↔ condition c = false := by
  constructor
  · intro stops
    exact stops c rfl
  · intro h d member
    rw [← Option.some.inj member]
    exact h

variable {condition : Char → Bool} {run rest text : List Char}

theorem takeWhile_eq_nil_of_stops (stops : Stops condition rest) :
    rest.takeWhile condition = [] := by
  cases rest with
  | nil => rfl
  | cons c rest => rw [List.takeWhile_cons, stops_cons.mp stops, if_neg Bool.false_ne_true]

theorem dropWhile_eq_self_of_stops (stops : Stops condition rest) :
    rest.dropWhile condition = rest := by
  cases rest with
  | nil => rfl
  | cons c rest => rw [List.dropWhile_cons, stops_cons.mp stops, if_neg Bool.false_ne_true]

theorem takeWhile_append_of_stops (all : ∀ c ∈ run, condition c = true)
    (stops : Stops condition rest) : (run ++ rest).takeWhile condition = run := by
  rw [List.takeWhile_append_of_pos all, takeWhile_eq_nil_of_stops stops, List.append_nil]

theorem dropWhile_append_of_stops (all : ∀ c ∈ run, condition c = true)
    (stops : Stops condition rest) : (run ++ rest).dropWhile condition = rest := by
  rw [List.dropWhile_append_of_pos all, dropWhile_eq_self_of_stops stops]

theorem stops_dropWhile (condition : Char → Bool) (text : List Char) :
    Stops condition (text.dropWhile condition) := by
  intro c member
  have first := List.head?_dropWhile_not condition text
  rw [Option.mem_def.mp member] at first
  exact first

theorem stops_append (none : ∀ c ∈ run, condition c = false) (stops : Stops condition rest) :
    Stops condition (run ++ rest) := by
  cases run with
  | nil => exact stops
  | cons c run => exact stops_cons.mpr (none c List.mem_cons_self)

theorem takeWhile_append_cons {c : Char} (other : condition c = false) (text rest : List Char) :
    (text ++ c :: rest).takeWhile condition = text.takeWhile condition := by
  have stops : Stops condition (c :: rest) := stops_cons.mpr other
  induction text with
  | nil => exact takeWhile_eq_nil_of_stops stops
  | cons d text ih =>
    rw [List.cons_append, List.takeWhile_cons, List.takeWhile_cons, ih]

/-- A run ends before a character that does not belong to it, whatever follows. -/
theorem dropWhile_append_cons {c : Char} (other : condition c = false) (text rest : List Char) :
    (text ++ c :: rest).dropWhile condition = text.dropWhile condition ++ c :: rest := by
  have stops : Stops condition (c :: rest) := stops_cons.mpr other
  induction text with
  | nil => exact dropWhile_eq_self_of_stops stops
  | cons d text ih =>
    rw [List.cons_append, List.dropWhile_cons, List.dropWhile_cons, ih]
    split
    · rfl
    · rfl

/-- What is left of a text stands behind the run that is dropped. -/
theorem exists_run_of_dropWhile (dropped : text.dropWhile condition = rest) :
    ∃ run, text = run ++ rest ∧ ∀ c ∈ run, condition c = true := by
  refine ⟨text.takeWhile condition, ?_, List.all_eq_true.mp List.all_takeWhile⟩
  rw [← dropped, List.takeWhile_append_dropWhile]

/-- Whether a run goes on into a text depends on the first character of the text alone. -/
theorem stops_append_of_ne_nil (nonempty : text ≠ []) (stops : Stops condition (text ++ rest))
    (other : List Char) : Stops condition (text ++ other) := by
  cases text with
  | nil => exact absurd rfl nonempty
  | cons c text => exact stops

theorem stops_append_cons {c : Char} (stops : Stops condition (text ++ c :: rest))
    (other : List Char) : Stops condition (text ++ c :: other) := by
  rw [List.append_cons] at stops ⊢
  exact stops_append_of_ne_nil (List.append_ne_nil_of_right_ne_nil _ (List.cons_ne_nil c [])) stops
    other

/-! ## Trimming -/

/-- Whether a text neither begins nor ends with a blank. -/
structure Trimmed (text : List Char) : Prop where
  first : ∀ c ∈ text.head?, isBlank c = false
  last : ∀ c ∈ text.getLast?, isBlank c = false

theorem trimStart_eq_self {text : List Char} (first : ∀ c ∈ text.head?, isBlank c = false) :
    trimStart text = text :=
  dropWhile_eq_self_of_stops first

theorem trimEnd_eq_self {text : List Char} (last : ∀ c ∈ text.getLast?, isBlank c = false) :
    trimEnd text = text := by
  rw [← List.head?_reverse] at last
  unfold trimEnd
  rw [dropWhile_eq_self_of_stops last, List.reverse_reverse]

theorem Trimmed.trim_eq {text : List Char} (trimmed : Trimmed text) : trim text = text := by
  unfold trim
  rw [trimStart_eq_self trimmed.first, trimEnd_eq_self trimmed.last]

/-- Blanks in front of a text and behind it are removed. -/
theorem Trimmed.trim_append {before text after : List Char} (trimmed : Trimmed text)
    (nonempty : text ≠ []) (blankBefore : ∀ c ∈ before, isBlank c = true)
    (blankAfter : ∀ c ∈ after, isBlank c = true) : trim (before ++ (text ++ after)) = text := by
  have start : Stops isBlank (text ++ after) := by
    obtain ⟨first, others, rfl⟩ := List.exists_cons_of_ne_nil nonempty
    exact trimmed.first
  have finish : Stops isBlank text.reverse := by
    intro c member
    rw [List.head?_reverse] at member
    exact trimmed.last c member
  have behind : ∀ c ∈ after.reverse, isBlank c = true := fun c member ↦
    blankAfter c (List.mem_reverse.mp member)
  rw [trim, trimStart, dropWhile_append_of_stops blankBefore start, trimEnd, List.reverse_append,
    dropWhile_append_of_stops behind finish, List.reverse_reverse]

theorem exists_blanks_trimStart (text : List Char) :
    ∃ before, text = before ++ trimStart text ∧ ∀ c ∈ before, isBlank c = true :=
  exists_run_of_dropWhile rfl

/-- What is trimmed off a text is blank. -/
theorem exists_blanks_trim (text : List Char) :
    ∃ before after, text = before ++ (trim text ++ after) ∧
      (∀ c ∈ before, isBlank c = true) ∧ ∀ c ∈ after, isBlank c = true := by
  obtain ⟨before, front, blankBefore⟩ := exists_blanks_trimStart text
  obtain ⟨behind, back, blankBehind⟩ := exists_run_of_dropWhile
    (rfl : (trimStart text).reverse.dropWhile isBlank = _)
  refine ⟨before, behind.reverse, ?_, blankBefore, fun c member ↦ ?_⟩
  · calc text
      _ = before ++ trimStart text := front
      _ = before ++ (trimStart text).reverse.reverse := by rw [List.reverse_reverse]
      _ = before ++ (trim text ++ behind.reverse) := by
        rw [back, List.reverse_append]
        rfl
  · exact blankBehind c (List.mem_reverse.mp member)

theorem trimStart_cons_of_isBlank {c : Char} {text : List Char} (blank : isBlank c = true) :
    trimStart (c :: text) = trimStart text := by
  unfold trimStart
  rw [List.dropWhile_cons, if_pos blank]

theorem trim_cons_of_isBlank {c : Char} {text : List Char} (blank : isBlank c = true) :
    trim (c :: text) = trim text := by
  unfold trim
  rw [trimStart_cons_of_isBlank blank]

theorem trimStart_eq_nil_iff {text : List Char} :
    trimStart text = [] ↔ ∀ c ∈ text, isBlank c = true := by
  unfold trimStart
  constructor
  · intro empty
    have visible := List.any_dropWhile (p := isBlank) (l := text)
    rw [empty, List.any_nil] at visible
    simpa using visible
  · intro blank
    have dropped := dropWhile_append_of_stops blank (stops_nil isBlank)
    rwa [List.append_nil] at dropped

/-- Trimming leaves nothing of a text exactly when the text is blank. -/
theorem trim_eq_nil_iff {text : List Char} : trim text = [] ↔ ∀ c ∈ text, isBlank c = true := by
  have again : trimStart (trimStart text) = trimStart text :=
    dropWhile_eq_self_of_stops (stops_dropWhile isBlank text)
  calc trim text = []
    _ ↔ trimStart (trimStart text).reverse = [] := List.reverse_eq_nil_iff
    _ ↔ ∀ c ∈ (trimStart text).reverse, isBlank c = true := trimStart_eq_nil_iff
    _ ↔ ∀ c ∈ trimStart text, isBlank c = true := by simp only [List.mem_reverse]
    _ ↔ trimStart (trimStart text) = [] := trimStart_eq_nil_iff.symm
    _ ↔ trimStart text = [] := by rw [again]
    _ ↔ ∀ c ∈ text, isBlank c = true := trimStart_eq_nil_iff

/-- A text without blanks is trimmed. -/
theorem trimmed_of_forall {text : List Char} (all : ∀ c ∈ text, isBlank c = false) :
    Trimmed text where
  first c member := all c (List.mem_of_mem_head? member)
  last c member := all c (List.mem_of_mem_getLast? member)

theorem Trimmed.append {front back : List Char} (trimmed : Trimmed front) (nonempty : front ≠ [])
    (last : ∀ c ∈ back.getLast?, isBlank c = false) : Trimmed (front ++ back) where
  first c member := by
    obtain ⟨d, others, rfl⟩ := List.exists_cons_of_ne_nil nonempty
    exact trimmed.first c member
  last c member := by
    rw [List.getLast?_append, Option.mem_def, Option.or_eq_some_iff] at member
    rcases member with behind | ⟨-, before⟩
    · exact last c behind
    · exact trimmed.last c before

/-- A text between two characters that are no blanks is trimmed. -/
theorem trimmed_enclosed {first last : Char} (inner : List Char)
    (firstVisible : isBlank first = false) (lastVisible : isBlank last = false) :
    Trimmed (first :: (inner ++ [last])) where
  first c member := by
    rw [← Option.some.inj member]
    exact firstVisible
  last c member := by
    rw [← List.cons_append, List.getLast?_concat] at member
    rw [← Option.some.inj member]
    exact lastVisible

/-! ## Line feeds -/

theorem lineFeeds_append (first second : List Char) :
    lineFeeds (first ++ second) = lineFeeds first + lineFeeds second :=
  List.count_append

theorem lineFeeds_newline (text : List Char) : lineFeeds ('\n' :: text) = lineFeeds text + 1 :=
  List.count_cons_self

theorem lineFeeds_eq_zero {text : List Char} (noBreak : '\n' ∉ text) : lineFeeds text = 0 :=
  List.count_eq_zero.mpr noBreak

end ViewPreview.Text
