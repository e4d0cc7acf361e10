import ViewPreview.Call.Argument
import ViewPreview.Proofs.Call.Nesting
import ViewPreview.Proofs.Call.Quoting

/-!
# Splitting a Text into Parts

A text is cut at the separators that stand outside of its literals and brackets, and nowhere else,
also where its literals and brackets are not all closed.  This determines the parts: joined with the
separator they are the text, none of them holds a separator to cut at, and each of them begins where
everything before it is closed, so that it is split in the text as it is by itself.
-/

namespace ViewPreview.Call

open ViewPreview.Text

variable {separator : Char} {start : Place} {text front rest : List Char}
  {parts : List (List Char)}

/-! ## Separators outside of literals and brackets -/

theorem Place.eq_of_isTop {place : Place} (top : place.isTop = true) : place = {} := by
  obtain ⟨quoting, depth⟩ := place
  rw [Place.isTop, Bool.and_eq_true, beq_iff_eq, beq_iff_eq] at top
  obtain ⟨rfl, rfl⟩ := top
  rfl

/-- A separator that is not nested does not move a place. -/
theorem after_of_isTop (top : start.isTop = true) (visible : isDelimiter separator = false) :
    start.after separator = start := by
  rw [Place.eq_of_isTop top]
  exact after_outside visible 0

/-- Whether the front of a text is followed by a separator that is nested in neither a string nor
brackets.  Quotes and brackets themselves never separate. -/
def SeparatorBehind (separator : Char) (start : Place) (text front : List Char) : Prop :=
  isDelimiter separator = false ∧ (start.afterAll front).isTop = true ∧ front ++ [separator] <+: text

theorem separatorBehind_cons_iff {c : Char} :
    SeparatorBehind separator start (c :: text) (c :: front) ↔
      SeparatorBehind separator (start.after c) text front := by
  unfold SeparatorBehind
  rw [List.cons_append, List.cons_prefix_cons, and_iff_right rfl]
  exact Iff.rfl

theorem not_separatorBehind_nil (separator : Char) (start : Place) (front : List Char) :
    ¬SeparatorBehind separator start [] front := by
  intro behind
  exact List.append_ne_nil_of_right_ne_nil front (List.cons_ne_nil _ _)
    (List.prefix_nil.mp behind.2.2)

theorem SeparatorBehind.of_isPrefix (behind : SeparatorBehind separator start text front)
    (isPrefix : text <+: rest) : SeparatorBehind separator start rest front :=
  ⟨behind.1, behind.2.1, behind.2.2.trans isPrefix⟩

/-- A text in which a separator stands has a first one. -/
theorem exists_first_separatorBehind (found : SeparatorBehind separator start text front) :
    ∃ first rest, text = first ++ separator :: rest ∧ SeparatorBehind separator start text first ∧
      ∀ earlier, ¬SeparatorBehind separator start first earlier := by
  induction text generalizing start front with
  | nil => exact absurd found (not_separatorBehind_nil separator start front)
  | cons c text ih =>
    by_cases here : SeparatorBehind separator start (c :: text) []
    · have same : separator = c := (List.cons_prefix_cons.mp here.2.2).1
      exact ⟨[], text, congrArg (· :: text) same.symm, here, not_separatorBehind_nil separator start⟩
    · match front with
      | [] => exact absurd found here
      | d :: front =>
        obtain rfl : d = c := (List.cons_prefix_cons.mp found.2.2).1
        obtain ⟨first, rest, shape, behind, none⟩ := ih (separatorBehind_cons_iff.mp found)
        refine ⟨d :: first, rest, congrArg (d :: ·) shape, separatorBehind_cons_iff.mpr behind, ?_⟩
        intro earlier before
        have inText : SeparatorBehind separator start (d :: text) earlier :=
          before.of_isPrefix ⟨separator :: rest, congrArg (d :: ·) shape.symm⟩
        match earlier with
        | [] => exact here inText
        | e :: earlier =>
          obtain rfl : e = d := (List.cons_prefix_cons.mp before.2.2).1
          exact none earlier (separatorBehind_cons_iff.mp before)

/-! ## Cutting -/

/-- A text without separators is passed over. -/
theorem unsplit_of_not_separatorBehind
    (none : ∀ front, ¬SeparatorBehind separator start text front) :
    Unsplit separator start (start.afterAll text) text := by
  induction text generalizing start with
  | nil => exact unsplit_nil
  | cons c text ih =>
    have inseparable : (start.isTop && c == separator && !isDelimiter c) = false := by
      rw [Bool.eq_false_iff]
      intro separates
      rw [Bool.and_eq_true, Bool.and_eq_true, beq_iff_eq, Bool.not_eq_true'] at separates
      obtain ⟨⟨top, rfl⟩, visible⟩ := separates
      exact none [] ⟨visible, top, List.prefix_append [c] text⟩
    have behind : ∀ front, ¬SeparatorBehind separator (start.after c) text front :=
      fun front found ↦ none (c :: front) (separatorBehind_cons_iff.mpr found)
    exact (unsplit_singleton inseparable).append (ih behind)

theorem splitTopLevel_whole (none : ∀ front, ¬SeparatorBehind separator {} text front) :
    splitTopLevel separator text = [text] :=
  (unsplit_of_not_separatorBehind none).splitFrom_eq

/-- A separator outside of literals and brackets ends a part, whatever stands on either side. -/
theorem splitFrom_append_separator (visible : isDelimiter separator = false)
    (top : (start.afterAll front).isTop = true) (rest : List Char) :
    splitFrom separator start (front ++ separator :: rest) =
      splitFrom separator start front ++ splitFrom separator (start.afterAll front) rest := by
  induction front generalizing start with
  | nil =>
    change start.isTop = true at top
    have ends : splitFrom separator start (separator :: rest) =
        [] :: splitFrom separator start rest := by
      rw [splitFrom, top, visible, beq_self_eq_true]
      rfl
    exact ends
  | cons c front ih =>
    rw [List.cons_append, splitFrom, splitFrom]
    split
    · next separates =>
      rw [Bool.and_eq_true, Bool.and_eq_true, Bool.not_eq_true'] at separates
      have stays : start.after c = start := after_of_isTop separates.1.1 separates.2
      have same : start.afterAll (c :: front) = start.afterAll front :=
        congrArg (Place.afterAll · front) stays
      rw [same] at top ⊢
      rw [ih top, List.cons_append]
    · rw [ih top]
      cases parts : splitFrom separator (start.after c) front with
      | nil => exact absurd parts (splitFrom_ne_nil _ _ _)
      | cons part parts => rfl

theorem splitTopLevel_cut
    (behind : SeparatorBehind separator {} (front ++ separator :: rest) front) :
    splitTopLevel separator (front ++ separator :: rest) =
      splitTopLevel separator front ++ splitTopLevel separator rest := by
  obtain ⟨visible, top, -⟩ := behind
  calc splitTopLevel separator (front ++ separator :: rest)
    _ = splitFrom separator {} front ++ splitFrom separator (Place.afterAll {} front) rest :=
      splitFrom_append_separator visible top rest
    _ = splitTopLevel separator front ++ splitTopLevel separator rest := by
      rw [Place.eq_of_isTop top]
      rfl

/-! ## The parts of a text -/

/-- The parts of a text: the text itself if there is no separator to cut at, and otherwise what
stands in front of the first separator and the parts of what stands behind it. -/
inductive IsSplit (separator : Char) : List Char → List (List Char) → Prop
  | whole {text : List Char} (none : ∀ front, ¬SeparatorBehind separator {} text front) :
      IsSplit separator text [text]
  | cut {front rest : List Char} {parts : List (List Char)}
      (behind : SeparatorBehind separator {} (front ++ separator :: rest) front)
      (first : ∀ earlier, ¬SeparatorBehind separator {} front earlier)
      (split : IsSplit separator rest parts) :
      IsSplit separator (front ++ separator :: rest) (front :: parts)

theorem isSplit_splitTopLevel (separator : Char) (text : List Char) :
    IsSplit separator text (splitTopLevel separator text) := by
  induction size : text.length using Nat.strong_induction_on generalizing text with
  | _ limit ih =>
    by_cases separated : ∃ front, SeparatorBehind separator {} text front
    · obtain ⟨found, behindFound⟩ := separated
      obtain ⟨front, rest, rfl, behind, first⟩ := exists_first_separatorBehind behindFound
      have shorter : rest.length < limit := by
        rw [← size, List.length_append, List.length_cons]
        omega
      rw [splitTopLevel_cut behind, splitTopLevel_whole first]
      exact .cut behind first (ih rest.length shorter rest rfl)
    · have none := not_exists.mp separated
      rw [splitTopLevel_whole none]
      exact .whole none

namespace IsSplit

theorem splitTopLevel_eq (split : IsSplit separator text parts) :
    splitTopLevel separator text = parts := by
  induction split with
  | whole none => exact splitTopLevel_whole none
  | cut behind first _ ih =>
    rw [splitTopLevel_cut behind, splitTopLevel_whole first, ih, List.singleton_append]

theorem ne_nil (split : IsSplit separator text parts) : parts ≠ [] := by
  cases split with
  | whole none => exact List.cons_ne_nil _ _
  | cut behind first split => exact List.cons_ne_nil _ _

theorem intercalate_eq (split : IsSplit separator text parts) :
    [separator].intercalate parts = text := by
  induction split with
  | whole none => exact List.intercalate_singleton
  | cut behind first split ih =>
    rw [List.intercalate_cons_of_ne_nil split.ne_nil, ih, List.append_assoc,
      List.singleton_append]

/-- No part holds a separator to cut at. -/
theorem not_separatorBehind (split : IsSplit separator text parts) :
    ∀ part ∈ parts, ∀ front, ¬SeparatorBehind separator {} part front := by
  induction split with
  | whole none => exact List.forall_mem_singleton.mpr none
  | cut behind first _ ih => exact List.forall_mem_cons.mpr ⟨first, ih⟩

/-- Every part begins outside of literals and brackets. -/
theorem afterAll_eq {before after : List (List Char)} {part : List Char}
    (split : IsSplit separator text parts) (shape : parts = before ++ part :: after) :
    Place.afterAll {} (before.flatMap (· ++ [separator])) = {} := by
  induction split generalizing before with
  | whole none =>
    cases before with
    | nil => rfl
    | cons first before =>
      have others := (List.cons.inj shape).2
      exact absurd others.symm (List.append_ne_nil_of_right_ne_nil before (List.cons_ne_nil _ _))
  | @cut front rest parts behind first _ ih =>
    cases before with
    | nil => rfl
    | cons head before =>
      obtain ⟨rfl, others⟩ := List.cons.inj shape
      obtain ⟨visible, top, -⟩ := behind
      calc Place.afterAll {} ((front :: before).flatMap (· ++ [separator]))
        _ = Place.afterAll ((Place.afterAll {} front).after separator)
              (before.flatMap (· ++ [separator])) := by
          rw [List.flatMap_cons, Place.afterAll_append, Place.afterAll_append]
          rfl
        _ = Place.afterAll {} (before.flatMap (· ++ [separator])) := by
          rw [after_of_isTop top visible, Place.eq_of_isTop top]
        _ = {} := ih others

end IsSplit

/-- The parts of a text are the only ones. -/
theorem splitTopLevel_eq_iff : splitTopLevel separator text = parts ↔ IsSplit separator text parts := by
  constructor
  · intro same
    rw [← same]
    exact isSplit_splitTopLevel separator text
  · exact IsSplit.splitTopLevel_eq

theorem splitTopLevel_eq_singleton_iff :
    splitTopLevel separator text = [text] ↔ ∀ front, ¬SeparatorBehind separator {} text front := by
  constructor
  · intro whole
    have split := splitTopLevel_eq_iff.mp whole
    exact split.not_separatorBehind text (List.mem_singleton_self text)
  · exact splitTopLevel_whole

/-! ## Joined texts -/

/-- Texts that are closed and hold no separator to cut at are the parts of the joined text. -/
theorem isSplit_intercalate (visible : isDelimiter separator = false) (nonempty : parts ≠ [])
    (all : ∀ part ∈ parts, Place.afterAll {} part = {} ∧
      ∀ front, ¬SeparatorBehind separator {} part front) :
    IsSplit separator ([separator].intercalate parts) parts := by
  induction parts with
  | nil => exact absurd rfl nonempty
  | cons part parts ih =>
    obtain ⟨⟨closed, none⟩, others⟩ := List.forall_mem_cons.mp all
    by_cases last : parts = []
    · rw [last, List.intercalate_singleton]
      exact .whole none
    · rw [List.intercalate_cons_of_ne_nil last, List.append_assoc, List.singleton_append]
      have behind : SeparatorBehind separator {}
          (part ++ separator :: [separator].intercalate parts) part := by
        refine ⟨visible, ?_, ⟨[separator].intercalate parts, ?_⟩⟩
        · rw [closed]
          rfl
        · rw [List.append_assoc, List.singleton_append]
      exact .cut behind none (ih last others)

/-- The arguments of a joined text are those of the texts that are not blank. -/
theorem argumentsOf_intercalate_of_closed {texts : List (List Char)}
    (all : ∀ text ∈ texts, Place.afterAll {} text = {} ∧
      ∀ front, ¬SeparatorBehind ',' {} text front) :
    argumentsOf ([','].intercalate texts) =
      (texts.filter fun text ↦ !(trim text).isEmpty).map Argument.ofText := by
  by_cases none : texts = []
  · rw [none]
    rfl
  · rw [argumentsOf, (isSplit_intercalate (by decide) none all).splitTopLevel_eq]

/-- Splitting loses nothing and puts together.  For every separator the parts joined with it are the
text; in front of each part, with the separators, everything is closed, and the part holds no
separator to cut at, so that it is its own only part.  And where texts are closed and hold no comma
to cut at, the arguments of the texts joined with commas are what the texts that are not blank are
read as, in order. -/
theorem splitTopLevel_compositional :
    (∀ (separator : Char) (text : List Char),
      [separator].intercalate (splitTopLevel separator text) = text ∧
        ∀ before part after, splitTopLevel separator text = before ++ part :: after →
          Place.afterAll {} (before.flatMap (· ++ [separator])) = {} ∧
            (∀ front, ¬SeparatorBehind separator {} part front) ∧
            splitTopLevel separator part = [part]) ∧
    ∀ texts : List (List Char),
      (∀ text ∈ texts, Place.afterAll {} text = {} ∧
        ∀ front, ¬SeparatorBehind ',' {} text front) →
          argumentsOf ([','].intercalate texts) =
            (texts.filter fun text ↦ !(trim text).isEmpty).map Argument.ofText := by
  refine ⟨fun separator text ↦ ?parts, fun texts ↦ argumentsOf_intercalate_of_closed⟩
  case parts =>
    have split := isSplit_splitTopLevel separator text
    refine ⟨split.intercalate_eq, fun before part after shape ↦ ?_⟩
    have member : part ∈ splitTopLevel separator text := by
      rw [shape]
      exact List.mem_append_right before List.mem_cons_self
    have none := split.not_separatorBehind part member
    exact ⟨split.afterAll_eq shape, none, splitTopLevel_whole none⟩

/-- Texts of arguments: a literal with a comma and an escaped quote, a call, a closure, and a blank
text between them. -/
def listedTexts : List (List Char) :=
  ["\"a, \\\"b\"".toList, " spacing: f(1, 2)".toList, "  ".toList, "action: { run(a, b) }".toList]

theorem splitTopLevel_compositional_listedTexts :
    (∀ text ∈ listedTexts, Place.afterAll {} text = {} ∧
        ∀ front, ¬SeparatorBehind ',' {} text front) ∧
      argumentsOf ([','].intercalate listedTexts) =
        [⟨none, "\"a, \\\"b\"".toList, none⟩, ⟨some "spacing", "f(1, 2)".toList, none⟩,
          ⟨some "action", "{ run(a, b) }".toList, none⟩] ∧
      splitTopLevel ',' "[a, \")\"], (b".toList = ["[a, \")\"]".toList] ++ " (b".toList :: [] ∧
      Place.afterAll {} ("[a, \")\"]".toList ++ [',']) = {} := by
  have closed : ∀ text ∈ listedTexts, Place.afterAll {} text = {} ∧
      splitTopLevel ',' text = [text] := by decide
  have all : ∀ text ∈ listedTexts, Place.afterAll {} text = {} ∧
      ∀ front, ¬SeparatorBehind ',' {} text front := fun text member ↦
    ⟨(closed text member).1, splitTopLevel_eq_singleton_iff.mp (closed text member).2⟩
  have split : splitTopLevel ',' "[a, \")\"], (b".toList =
      ["[a, \")\"]".toList] ++ " (b".toList :: [] := by decide
  have second := (splitTopLevel_compositional.1 ',' "[a, \")\"], (b".toList).2 _ _ _ split
  exact ⟨all, splitTopLevel_compositional.2 listedTexts all, split, second.1⟩

end ViewPreview.Call
