import ViewPreview.Text.Occurrence

/-!
# Finding, Removing and Replacing Parts of a Text

What a text is split into when its first separator is known, or at all of them, and what is left
when a known beginning or end is removed.  A text that lacks one of the characters of a beginning
does not have that beginning anywhere.  Replacing what does not occur in a text leaves the text as
it is, and once every occurrence of a needle has been replaced, the needle occurs nowhere, provided
that the replacement is not empty and shares no character with the needle.
-/

namespace ViewPreview.Text

variable {separator : Char} {front rest text start finish : List Char}

/-! ## Splitting -/

theorem splitFirst?_eq_none (absent : separator ∉ text) : splitFirst? separator text = none := by
  induction text with
  | nil => rfl
  | cons c text ih =>
    have others := ih fun member ↦ absent (List.mem_cons_of_mem c member)
    rw [splitFirst?, if_neg, others]
    · rfl
    · intro same
      exact absent (same ▸ List.mem_cons_self)

theorem splitFirst?_append (absent : separator ∉ front) :
    splitFirst? separator (front ++ separator :: rest) = some (front, rest) := by
  induction front with
  | nil => exact if_pos rfl
  | cons c front ih =>
    have others := ih fun member ↦ absent (List.mem_cons_of_mem c member)
    rw [List.cons_append, splitFirst?, if_neg, others]
    · rfl
    · intro same
      exact absent (same ▸ List.mem_cons_self)

/-- What a text is split into, put around the separator, is the text. -/
theorem append_of_splitFirst? (split : splitFirst? separator text = some (front, rest)) :
    front ++ separator :: rest = text ∧ separator ∉ front := by
  induction text generalizing front with
  | nil => cases split
  | cons c text ih =>
    rw [splitFirst?] at split
    split at split
    · next same =>
      cases split
      exact ⟨congrArg (· :: rest) same.symm, List.not_mem_nil⟩
    · next other =>
      obtain ⟨⟨before, after⟩, found, same⟩ := Option.map_eq_some_iff.mp split
      obtain ⟨rfl, rfl⟩ : c :: before = front ∧ after = rest := Prod.mk.inj same
      obtain ⟨whole, absent⟩ := ih found
      refine ⟨congrArg (c :: ·) whole, ?_⟩
      intro member
      rcases List.mem_cons.mp member with rfl | later
      · exact other rfl
      · exact absent later

/-- The parts around the first separator of a text do not depend on what follows the text. -/
theorem exists_splitFirst?_append (member : separator ∈ front) :
    ∃ before behind, ∀ rest,
      splitFirst? separator (front ++ rest) = some (before, behind ++ rest) := by
  obtain ⟨before, behind, rfl, absent⟩ := List.eq_append_cons_of_mem member
  refine ⟨before, behind, fun rest ↦ ?_⟩
  rw [List.append_assoc, List.cons_append]
  exact splitFirst?_append absent

/-! ## Parts between separators -/

section Parts

variable {part : List Char} {parts : List (List Char)}

theorem splitAll_separator (separator : Char) (text : List Char) :
    splitAll separator (separator :: text) = [] :: splitAll separator text :=
  if_pos rfl

theorem splitAll_ne_nil (separator : Char) (text : List Char) : splitAll separator text ≠ [] := by
  cases text with
  | nil => exact List.cons_ne_nil _ _
  | cons c text =>
    rw [splitAll]
    split
    · exact List.cons_ne_nil _ _
    · split
      · exact List.cons_ne_nil _ _
      · exact List.cons_ne_nil _ _

theorem splitAll_cons_of_ne {c : Char} (other : c ≠ separator)
    (split : splitAll separator text = part :: parts) :
    splitAll separator (c :: text) = (c :: part) :: parts := by
  rw [splitAll, if_neg other, split]

/-- The parts on both sides of a separator are those of the texts on both sides of it. -/
theorem splitAll_append (front rest : List Char) :
    splitAll separator (front ++ separator :: rest) =
      splitAll separator front ++ splitAll separator rest := by
  induction front with
  | nil => exact splitAll_separator separator rest
  | cons c front ih =>
    by_cases same : c = separator
    · rw [same, List.cons_append, splitAll_separator, splitAll_separator, ih, List.cons_append]
    · obtain ⟨part, parts, split⟩ := List.exists_cons_of_ne_nil (splitAll_ne_nil separator front)
      rw [split, List.cons_append] at ih
      rw [List.cons_append, splitAll_cons_of_ne same ih, splitAll_cons_of_ne same split,
        List.cons_append]

theorem splitAll_eq_singleton (absent : separator ∉ part) : splitAll separator part = [part] := by
  induction part with
  | nil => rfl
  | cons c part ih =>
    rw [List.mem_cons, not_or] at absent
    exact splitAll_cons_of_ne (Ne.symm absent.1) (ih absent.2)

/-- Texts without the separator are the parts of the joined text. -/
theorem splitAll_intercalate (nonempty : parts ≠ [])
    (absent : ∀ part ∈ parts, separator ∉ part) :
    splitAll separator ([separator].intercalate parts) = parts := by
  induction parts with
  | nil => exact absurd rfl nonempty
  | cons part parts ih =>
    obtain ⟨first, others⟩ := List.forall_mem_cons.mp absent
    by_cases last : parts = []
    · rw [last, List.intercalate_singleton, splitAll_eq_singleton first]
    · rw [List.intercalate_cons_of_ne_nil last, List.append_assoc, List.singleton_append,
        splitAll_append, splitAll_eq_singleton first, ih last others, List.singleton_append]

theorem intercalate_cons_first (c : Char) (part : List Char) (parts : List (List Char)) :
    [separator].intercalate ((c :: part) :: parts) =
      c :: [separator].intercalate (part :: parts) := by
  cases parts with
  | nil => rw [List.intercalate_singleton, List.intercalate_singleton]
  | cons second parts =>
    rw [List.intercalate_cons_cons, List.intercalate_cons_cons]
    rfl

/-- The parts of a text, joined again, are the text. -/
theorem intercalate_splitAll (separator : Char) (text : List Char) :
    [separator].intercalate (splitAll separator text) = text := by
  induction text with
  | nil => rfl
  | cons c text ih =>
    by_cases same : c = separator
    · rw [same, splitAll_separator,
        List.intercalate_cons_of_ne_nil (splitAll_ne_nil separator text), ih]
      rfl
    · obtain ⟨part, parts, split⟩ := List.exists_cons_of_ne_nil (splitAll_ne_nil separator text)
      rw [splitAll_cons_of_ne same split, intercalate_cons_first, ← split, ih]

theorem not_mem_of_mem_splitAll (member : part ∈ splitAll separator text) : separator ∉ part := by
  induction text generalizing part with
  | nil =>
    rw [List.mem_singleton.mp member]
    exact List.not_mem_nil
  | cons c text ih =>
    by_cases same : c = separator
    · rw [same, splitAll_separator] at member
      rcases List.mem_cons.mp member with rfl | behind
      · exact List.not_mem_nil
      · exact ih behind
    · obtain ⟨first, others, split⟩ := List.exists_cons_of_ne_nil (splitAll_ne_nil separator text)
      rw [splitAll_cons_of_ne same split] at member
      rw [split] at ih
      rcases List.mem_cons.mp member with rfl | behind
      · exact List.not_mem_cons_of_ne_of_not_mem (Ne.symm same) (ih List.mem_cons_self)
      · exact ih (List.mem_cons_of_mem first behind)

theorem not_mem_intercalate {c : Char} (other : c ≠ separator)
    (absent : ∀ part ∈ parts, c ∉ part) : c ∉ [separator].intercalate parts := by
  induction parts with
  | nil => exact List.not_mem_nil
  | cons part parts ih =>
    obtain ⟨first, others⟩ := List.forall_mem_cons.mp absent
    by_cases last : parts = []
    · rw [last, List.intercalate_singleton]
      exact first
    · rw [List.intercalate_cons_of_ne_nil last]
      exact List.not_mem_append
        (List.not_mem_append first fun same ↦ other (List.mem_singleton.mp same)) (ih others)

end Parts

/-! ## Beginnings and ends -/

theorem dropStart?_append (start rest : List Char) :
    dropStart? start (start ++ rest) = some rest := by
  induction start with
  | nil => rfl
  | cons c start ih =>
    rw [List.cons_append, dropStart?, if_pos rfl]
    exact ih

/-- What is left of a text after its beginning, put behind that beginning, is the text. -/
theorem append_of_dropStart? (found : dropStart? start text = some rest) :
    start ++ rest = text := by
  induction start generalizing text with
  | nil => exact (Option.some.inj found).symm
  | cons p start ih =>
    cases text with
    | nil => cases found
    | cons c text =>
      rw [dropStart?] at found
      split at found
      · next same => rw [List.cons_append, ih found, same]
      · cases found

/-- A beginning does not reach a character that it lacks, whatever follows. -/
theorem dropStart?_append_cons (absent : separator ∉ start) (text rest : List Char) :
    dropStart? start (text ++ separator :: rest) =
      (dropStart? start text).map (· ++ separator :: rest) := by
  induction start generalizing text with
  | nil => rfl
  | cons p start ih =>
    rw [List.mem_cons, not_or] at absent
    cases text with
    | nil => exact if_neg (Ne.symm absent.1)
    | cons c text =>
      rw [List.cons_append, dropStart?, dropStart?]
      split
      · exact ih absent.2 text
      · rfl

theorem dropStart?_eq_none {c : Char} (needed : c ∈ start) (absent : c ∉ text) :
    dropStart? start text = none := by
  cases found : dropStart? start text with
  | none => rfl
  | some rest =>
    have whole := append_of_dropStart? found
    exact absurd (whole ▸ List.mem_append_left rest needed) absent

theorem dropStart?_cons_eq_none {p c : Char} (different : p ≠ c) :
    dropStart? (p :: start) (c :: text) = none :=
  if_neg different

theorem dropStart?_singleton {c : Char} :
    dropStart? [c] text = some rest ↔ text = c :: rest := by
  constructor
  · intro found
    exact (append_of_dropStart? found).symm
  · rintro rfl
    exact dropStart?_append [c] rest

theorem dropStart?_singleton_eq_none {c : Char} (other : ∀ rest, text ≠ c :: rest) :
    dropStart? [c] text = none :=
  Option.eq_none_iff_forall_ne_some.mpr fun rest found ↦ other rest (dropStart?_singleton.mp found)

theorem isPrefixOf_eq_isSome (start text : List Char) :
    start.isPrefixOf text = (dropStart? start text).isSome := by
  induction start generalizing text with
  | nil => rfl
  | cons p start ih =>
    cases text with
    | nil => rfl
    | cons c text =>
      rw [List.isPrefixOf_cons_cons, dropStart?, ih]
      split
      · next same => rw [same, beq_self_eq_true, Bool.true_and]
      · next other => rw [beq_eq_false_iff_ne.mpr other, Bool.false_and, Option.isSome_none]

theorem startsWith_eq_isSome (word : String) (text : List Char) :
    startsWith word text = (dropStart? word.toList text).isSome :=
  isPrefixOf_eq_isSome word.toList text

/-- Whether a text begins with a word is settled before a character that the word lacks. -/
theorem startsWith_append_cons {word : String} (absent : separator ∉ word.toList)
    (text rest : List Char) : startsWith word (text ++ separator :: rest) = startsWith word text := by
  rw [startsWith_eq_isSome, startsWith_eq_isSome, dropStart?_append_cons absent, Option.isSome_map]

theorem dropFinish?_append (front finish : List Char) :
    dropFinish? finish (front ++ finish) = some front := by
  rw [dropFinish?, List.reverse_append, dropStart?_append, Option.map_some, List.reverse_reverse]

theorem append_of_dropFinish? {front finish : List Char}
    (found : dropFinish? finish text = some front) : front ++ finish = text := by
  obtain ⟨backwards, dropped, rfl⟩ := Option.map_eq_some_iff.mp found
  have whole := congrArg List.reverse (append_of_dropStart? dropped)
  rw [List.reverse_append, List.reverse_reverse, List.reverse_reverse] at whole
  exact whole

/-! ## Replacement -/

/-- Replacing what does not occur in a text leaves the text. -/
theorem replaceFrom_eq_self {needle : List Char} (replacement : List Char)
    (absent : occursIn needle text = false) : replaceFrom needle replacement 0 text = text := by
  induction text with
  | nil => rfl
  | cons c text ih =>
    rw [occursIn, Bool.or_eq_false_iff] at absent
    rw [replaceFrom, absent.1, if_neg Bool.false_ne_true, ih absent.2]

/-- A character is kept where the needle does not begin with it. -/
theorem replaceFrom_cons {needle replacement : List Char} {c : Char}
    (elsewhere : dropStart? needle (c :: text) = none) :
    replaceFrom needle replacement 0 (c :: text) =
      c :: replaceFrom needle replacement 0 text := by
  rw [replaceFrom, isPrefixOf_eq_isSome, elsewhere, if_neg (by decide)]

/-- A text without the first character of the needle is kept. -/
theorem replaceFrom_append_of_not_mem {p : Char} {needle replacement : List Char}
    (absent : p ∉ text) :
    replaceFrom (p :: needle) replacement 0 (text ++ rest) =
      text ++ replaceFrom (p :: needle) replacement 0 rest := by
  induction text with
  | nil => rfl
  | cons c text ih =>
    rw [List.mem_cons, not_or] at absent
    rw [List.cons_append, replaceFrom_cons (dropStart?_cons_eq_none absent.1), ih absent.2]
    rfl

theorem replaceFrom_skip (needle replacement skipped rest : List Char) :
    replaceFrom needle replacement skipped.length (skipped ++ rest) =
      replaceFrom needle replacement 0 rest := by
  induction skipped with
  | nil => rfl
  | cons c skipped ih => rw [List.cons_append, List.length_cons, replaceFrom, ih]

/-- The needle at the start of a text is replaced. -/
theorem replaceFrom_needle (p : Char) (needle replacement rest : List Char) :
    replaceFrom (p :: needle) replacement 0 (p :: needle ++ rest) =
      replacement ++ replaceFrom (p :: needle) replacement 0 rest := by
  have starts : (p :: needle).isPrefixOf (p :: (needle ++ rest)) = true := by
    rw [isPrefixOf_eq_isSome, ← List.cons_append, dropStart?_append, Option.isSome_some]
  rw [List.cons_append, replaceFrom, if_pos starts, List.length_cons, Nat.add_sub_cancel,
    replaceFrom_skip]

theorem replaceString_eq_ofList {needle replacement text : String} (nonempty : needle.toList ≠ []) :
    replaceString needle replacement text =
      String.ofList (replaceFrom needle.toList replacement.toList 0 text.toList) := by
  rw [replaceString, replaceAll, List.isEmpty_eq_false_iff.mpr nonempty, if_neg Bool.false_ne_true]

/-- The empty text occurs everywhere. -/
theorem occursIn_nil (text : List Char) : occursIn [] text = true := by
  cases text with
  | nil => rfl
  | cons c text => rfl

theorem replaceString_eq_self {needle text : String} (replacement : String)
    (absent : occursIn needle.toList text.toList = false) :
    replaceString needle replacement text = text := by
  have nonempty : needle.toList.isEmpty = false := by
    rw [Bool.eq_false_iff]
    intro empty
    rw [List.isEmpty_iff.mp empty, occursIn_nil] at absent
    exact Bool.noConfusion absent
  rw [replaceString, replaceAll, nonempty, if_neg Bool.false_ne_true,
    replaceFrom_eq_self _ absent, String.ofList_toList]

/-- A text does not occur where one of its characters is missing. -/
theorem occursIn_eq_false {needle : List Char} {c : Char} (needed : c ∈ needle)
    (absent : c ∉ text) : occursIn needle text = false := by
  induction text with
  | nil =>
    cases needle with
    | nil => cases needed
    | cons d needle => rfl
  | cons d text ih =>
    rw [occursIn, isPrefixOf_eq_isSome, dropStart?_eq_none needed absent, Option.isSome_none,
      Bool.false_or]
    exact ih fun member ↦ absent (List.mem_cons_of_mem d member)

/-- A text does not occur in a shorter one. -/
theorem occursIn_eq_false_of_length_lt {needle : List Char} (longer : text.length < needle.length) :
    occursIn needle text = false := by
  induction text with
  | nil =>
    cases needle with
    | nil => exact absurd longer (Nat.lt_irrefl 0)
    | cons c needle => rfl
  | cons c text ih =>
    have unmatched : needle.isPrefixOf (c :: text) = false := by
      rw [Bool.eq_false_iff]
      intro starts
      exact absurd (List.isPrefixOf_iff_prefix.mp starts).length_le (Nat.not_le.mpr longer)
    rw [occursIn, unmatched, Bool.false_or]
    exact ih (Nat.lt_of_succ_lt longer)

/-! ## Replacing every occurrence

An occurrence of the needle in what is left would have to lie between two replacements, in a passage
that was kept as it was, and every occurrence in the text itself has been found.  Without a
replacement the passages around an occurrence would meet and could make up a new one.
-/

section Characters

variable {needle replacement : List Char}

theorem occursIn_iff_isInfix : occursIn needle text = true ↔ needle <:+: text := by
  induction text with
  | nil => rw [occursIn, List.isEmpty_iff, List.infix_nil]
  | cons c text ih =>
    rw [occursIn, Bool.or_eq_true, List.isPrefixOf_iff_prefix, ih, List.infix_cons_iff]

/-- A needle does not begin among characters that it lacks. -/
theorem isInfix_of_isInfix_append (nonempty : needle ≠ []) (apart : ∀ c ∈ needle, c ∉ front)
    (occurs : needle <:+: front ++ text) : needle <:+: text := by
  induction front with
  | nil => exact occurs
  | cons d front ih =>
    rw [List.cons_append, List.infix_cons_iff] at occurs
    rcases occurs with here | later
    · obtain ⟨c, others, rfl⟩ := List.exists_cons_of_ne_nil nonempty
      have same : c = d := (List.cons_prefix_cons.mp here).1
      exact absurd (same ▸ List.mem_cons_self) (apart c List.mem_cons_self)
    · exact ih (fun c member inside ↦ apart c member (List.mem_cons_of_mem d inside)) later

/-- What a text begins with after replacement it began with before, as far as that shares no
character with the replacement. -/
theorem isPrefix_of_isPrefix_replaceFrom (filled : replacement ≠ [])
    (apart : ∀ c ∈ start, c ∉ replacement)
    (begins : start <+: replaceFrom needle replacement 0 text) : start <+: text := by
  induction start generalizing text with
  | nil => exact List.nil_prefix
  | cons p start ih =>
    cases text with
    | nil => exact begins
    | cons c text =>
      rw [replaceFrom] at begins
      split at begins
      -- Where a replacement was put in, the start would have its first character from there.
      · obtain ⟨r, others, same⟩ := List.exists_cons_of_ne_nil filled
        rw [same, List.cons_append] at begins
        have replaced : p ∈ replacement := by
          rw [same, (List.cons_prefix_cons.mp begins).1]
          exact List.mem_cons_self
        exact absurd replaced (apart p List.mem_cons_self)
      · obtain ⟨here, later⟩ := List.cons_prefix_cons.mp begins
        have kept := ih (fun d member ↦ apart d (List.mem_cons_of_mem p member)) later
        exact List.cons_prefix_cons.mpr ⟨here, kept⟩

/-- A needle that has been replaced everywhere occurs nowhere. -/
theorem not_isInfix_replaceFrom (nonempty : needle ≠ []) (filled : replacement ≠ [])
    (apart : ∀ c ∈ needle, c ∉ replacement) (skip : Nat) (text : List Char) :
    ¬needle <:+: replaceFrom needle replacement skip text := by
  fun_induction replaceFrom needle replacement skip text with
  | case1 => exact fun occurs ↦ nonempty (List.infix_nil.mp occurs)
  | case2 _ _ _ ih => exact ih
  | case3 c text _ ih => exact fun occurs ↦ ih (isInfix_of_isInfix_append nonempty apart occurs)
  | case4 c text elsewhere ih =>
    intro occurs
    rcases List.infix_cons_iff.mp occurs with here | later
    -- An occurrence that begins with a kept character was in the text and would have been replaced.
    · apply elsewhere
      rw [List.isPrefixOf_iff_prefix]
      apply isPrefix_of_isPrefix_replaceFrom filled apart
      rwa [replaceFrom, if_neg elsewhere]
    · exact ih later

end Characters

section Strings

/-- Whether a needle occurs nowhere in a text. -/
def Lacks (needle text : String) : Prop :=
  ¬needle.toList <:+: text.toList

instance (needle text : String) : Decidable (Lacks needle text) :=
  inferInstanceAs (Decidable (¬_))

variable {needle replacement text : String}

theorem toList_ne_nil (nonempty : text ≠ "") : text.toList ≠ [] := by
  intro empty
  exact nonempty (String.toList_eq_nil_iff.mp empty)

/-- A needle that has been replaced everywhere occurs nowhere. -/
theorem lacks_replaceString (nonempty : needle ≠ "") (filled : replacement ≠ "")
    (apart : ∀ c ∈ needle.toList, c ∉ replacement.toList) (text : String) :
    Lacks needle (replaceString needle replacement text) := by
  rw [Lacks, replaceString_eq_ofList (toList_ne_nil nonempty), String.toList_ofList]
  exact not_isInfix_replaceFrom (toList_ne_nil nonempty) (toList_ne_nil filled) apart 0 text.toList

/-- A text that lacks the needle is kept. -/
theorem replaceString_of_lacks (replacement : String) (absent : Lacks needle text) :
    replaceString needle replacement text = text := by
  apply replaceString_eq_self
  rwa [Bool.eq_false_iff, Ne, occursIn_iff_isInfix]

end Strings

end ViewPreview.Text
