import Mathlib.Data.List.Induction
import ViewPreview.Proofs.Call.FirstLiteral
import ViewPreview.Proofs.Call.Matching
import ViewPreview.Proofs.Call.Splitting
import ViewPreview.Proofs.Text.Identifier
import ViewPreview.Proofs.Text.Occurrence

/-!
# Matching Brackets Against Splitting

The arguments of a call are taken out of its text by matching a pair of brackets, and are then split
at their commas.  The splitting passes over string literals and counts the brackets of all kinds
alike; the matching counts the brackets of its pair and no others, also those in literals.  So the
two agree on a text whose brackets are nested kind by kind outside of its literals and match in each
literal.  A bracket that stands alone in a literal cuts the text between the brackets short, or
leaves it without an end.
-/

namespace ViewPreview.Call

open ViewPreview.Text ViewPreview.Spelling

/-! ## Depths -/

namespace Place

/-- A place nested some levels deeper. -/
def raise (place : Place) (levels : Int) : Place :=
  { place with depth := place.depth + levels }

variable {place : Place} {c : Char}

/-- What a character does to a place does not depend on how deep the place is nested. -/
theorem after_raise (place : Place) (levels : Int) (c : Char) :
    (place.raise levels).after c = (place.after c).raise levels := by
  obtain ⟨quoting, depth⟩ := place
  unfold after raise
  cases quoting with
  | escaped => rfl
  | inside =>
    dsimp only
    split
    · rfl
    · split
      · rfl
      · rfl
  | outside =>
    dsimp only
    split
    · rfl
    · split
      · rw [Int.add_right_comm]
      · split
        · rw [Int.sub_eq_add_neg, Int.sub_eq_add_neg, Int.add_right_comm]
        · rfl

theorem afterAll_raise (place : Place) (levels : Int) (text : List Char) :
    (place.raise levels).afterAll text = (place.afterAll text).raise levels := by
  induction text generalizing place with
  | nil => rfl
  | cons c text ih =>
    show ((place.raise levels).after c).afterAll text = ((place.after c).afterAll text).raise levels
    rw [after_raise, ih]

theorem depth_after_of_isQuoted (quoted : place.isQuoted = true) (c : Char) :
    (place.after c).depth = place.depth := by
  obtain ⟨quoting, depth⟩ := place
  cases quoting with
  | outside => cases quoted
  | escaped => rfl
  | inside =>
    unfold after
    dsimp only
    split
    · rfl
    · split
      · rfl
      · rfl

/-- Quotes and characters that are no delimiters leave the depth as it is. -/
theorem depth_after_of_not_bracket (other : ¬(isDelimiter c = true ∧ c ≠ '"')) :
    (place.after c).depth = place.depth := by
  cases quoted : place.isQuoted with
  | true => exact depth_after_of_isQuoted quoted c
  | false =>
    obtain ⟨quoting, depth⟩ := place
    cases quoting with
    | inside => cases quoted
    | escaped => cases quoted
    | outside =>
      by_cases quote : c = '"'
      · rw [quote]
        rfl
      · have ordinary : isDelimiter c = false := by
          rw [Bool.eq_false_iff]
          exact fun delimiter ↦ other ⟨delimiter, quote⟩
        rw [after_outside ordinary]

end Place

/-! ## Texts that the splitting finds balanced -/

/-- A text that the splitting of arguments finds balanced: outside of its literals no bracket is
closed before one is opened, and in the end all brackets and literals are closed. -/
structure SplitBalanced (text : List Char) : Prop where
  covered : ∀ front, front <+: text → 0 ≤ (Place.afterAll {} front).depth
  settled : Place.afterAll {} text = {}

section SplitBalanced

variable {text first second : List Char} {c : Char}

theorem splitBalanced_nil : SplitBalanced [] where
  covered front isPrefix := by
    rw [List.prefix_nil.mp isPrefix]
    exact Int.le_refl 0
  settled := rfl

theorem splitBalanced_singleton (ordinary : isDelimiter c = false) : SplitBalanced [c] where
  covered front isPrefix := by
    rcases List.prefix_cons_iff.mp isPrefix with rfl | ⟨others, rfl, none⟩
    · exact Int.le_refl 0
    · rw [List.prefix_nil.mp none]
      exact Int.le_of_eq (congrArg Place.depth (after_outside ordinary 0)).symm
  settled := after_outside ordinary 0

theorem SplitBalanced.append (front : SplitBalanced first) (back : SplitBalanced second) :
    SplitBalanced (first ++ second) where
  covered text isPrefix := by
    rcases List.prefix_or_prefix_of_prefix isPrefix (List.prefix_append first second) with
      inFront | ⟨behind, rfl⟩
    · exact front.covered text inFront
    · rw [Place.afterAll_append, front.settled]
      exact back.covered behind ((List.prefix_append_right_inj first).mp isPrefix)
  settled := by rw [Place.afterAll_append, front.settled, back.settled]

/-- A text that is settled in the end is balanced when nothing in front of its last character goes
below zero. -/
theorem splitBalanced_of_inside {opening closing : Char}
    (whole : Place.afterAll {} (opening :: (text ++ [closing])) = {})
    (inside : ∀ front, front <+: text → 0 ≤ (Place.afterAll {} (opening :: front)).depth) :
    SplitBalanced (opening :: (text ++ [closing])) where
  covered front isPrefix := by
    rcases List.prefix_cons_iff.mp isPrefix with rfl | ⟨behind, rfl, isBehind⟩
    · exact Int.le_refl 0
    · rcases List.prefix_concat_iff.mp isBehind with rfl | isInside
      · exact Int.le_of_eq (congrArg Place.depth whole).symm
      · exact inside behind isInside
  settled := whole

/-- A balanced text in brackets is balanced. -/
theorem SplitBalanced.enclosed {opening closing : Char} (inside : SplitBalanced text)
    (opens : Place.after {} opening = Place.raise {} 1)
    (closes : (Place.raise {} 1).after closing = {}) :
    SplitBalanced (opening :: (text ++ [closing])) := by
  have within (front : List Char) : Place.afterAll {} (opening :: front) =
      (Place.afterAll {} front).raise 1 := by
    rw [← Place.afterAll_raise, ← opens]
    rfl
  have whole : Place.afterAll {} (opening :: (text ++ [closing])) = {} := by
    calc Place.afterAll {} (opening :: (text ++ [closing]))
      _ = ((Place.afterAll {} (opening :: text)).after closing) := by
        rw [← List.cons_append, Place.afterAll_append]
        rfl
      _ = {} := by rw [within, inside.settled, closes]
  refine splitBalanced_of_inside whole fun front isInside ↦ ?_
  rw [within]
  exact Int.le_trans (inside.covered front isInside) (Int.le_add_of_nonneg_right (by decide))

/-- The content of a literal leads to a place inside the literal, and nothing in it is nested. -/
theorem afterAll_content {content : List Char} (isContent : LiteralContent content) :
    Place.afterAll ⟨.inside, 0⟩ content = ⟨.inside, 0⟩ ∧
      ∀ front, front <+: content → (Place.afterAll ⟨.inside, 0⟩ front).depth = 0 := by
  induction isContent with
  | nil =>
    refine ⟨rfl, fun front isPrefix ↦ ?_⟩
    rw [List.prefix_nil.mp isPrefix]
    rfl
  | @plain c content ordinary _ ih =>
    have stays := after_inside (fun backslash ↦ ordinary (.inr backslash))
      (fun quote ↦ ordinary (.inl quote)) 0
    have behind (front : List Char) : Place.afterAll ⟨.inside, 0⟩ (c :: front) =
        Place.afterAll ⟨.inside, 0⟩ front := congrArg (Place.afterAll · front) stays
    refine ⟨(behind content).trans ih.1, fun front isPrefix ↦ ?_⟩
    rcases List.prefix_cons_iff.mp isPrefix with rfl | ⟨front, rfl, within⟩
    · rfl
    · rw [behind]
      exact ih.2 front within
  | @escaped c content _ _ ih =>
    refine ⟨ih.1, fun front isPrefix ↦ ?_⟩
    rcases List.prefix_cons_iff.mp isPrefix with rfl | ⟨behind, rfl, isBehind⟩
    · rfl
    · rcases List.prefix_cons_iff.mp isBehind with rfl | ⟨front, rfl, within⟩
      · rfl
      · exact ih.2 front within

theorem splitBalanced_literal {content : List Char} (isContent : LiteralContent content) :
    SplitBalanced ('"' :: (content ++ ['"'])) := by
  obtain ⟨passed, flat⟩ := afterAll_content isContent
  have whole : Place.afterAll {} ('"' :: (content ++ ['"'])) = {} := by
    calc Place.afterAll {} ('"' :: (content ++ ['"']))
      _ = (Place.afterAll ⟨.inside, 0⟩ content).after '"' := Place.afterAll_append _ content ['"']
      _ = {} := by
        rw [passed]
        rfl
  exact splitBalanced_of_inside whole fun front isInside ↦ Int.le_of_eq (flat front isInside).symm

/-- A text whose brackets are nested kind by kind outside of its literals is balanced, whatever its
literals hold. -/
theorem Bracketed.splitBalanced {content : List Char → Prop} (bracketed : Bracketed content text) :
    SplitBalanced text := by
  induction bracketed with
  | nil => exact splitBalanced_nil
  | plain ordinary _ ih => exact (splitBalanced_singleton ordinary).append ih
  | @quoted inner text whole _ _ ih =>
    have literal := splitBalanced_literal (exists_of_quotedContent? whole).1
    have appended := literal.append ih
    rwa [List.cons_append, List.append_assoc] at appended
  | @group opening closing inner text pair _ _ ihInside ih =>
    have steps : ∀ pair ∈ [('(', ')'), ('[', ']'), ('{', '}')],
        Place.after {} pair.1 = Place.raise {} 1 ∧ (Place.raise {} 1).after pair.2 = {} := by
      decide
    obtain ⟨opens, closes⟩ := steps _ pair
    have appended := (ihInside.enclosed opens closes).append ih
    rwa [List.cons_append, List.append_assoc] at appended

end SplitBalanced

/-! ## Texts with brackets of one kind -/

/-- Whether the brackets outside of the literals of a text are of one kind, and those inside are of
other kinds. -/
def BracketsOf (opening closing : Char) (text : List Char) : Prop :=
  ∀ front c, front ++ [c] <+: text → isDelimiter c = true ∧ c ≠ '"' →
    ((c = opening ∨ c = closing) ↔ (Place.afterAll {} front).isQuoted = false)

section BracketsOf

variable {opening closing : Char} {text : List Char}

theorem BracketsOf.of_isPrefix {front : List Char} (brackets : BracketsOf opening closing text)
    (isPrefix : front <+: text) : BracketsOf opening closing front :=
  fun before c within ↦ brackets before c (within.trans isPrefix)

theorem after_bracket {place : Place} (outside : place.isQuoted = false)
    (kind : (opening, closing) ∈ [('(', ')'), ('[', ']'), ('{', '}')]) :
    (place.after opening).depth = place.depth + 1 ∧
      (place.after closing).depth = place.depth - 1 := by
  obtain ⟨quoting, depth⟩ := place
  cases quoting with
  | inside => cases outside
  | escaped => cases outside
  | outside =>
    simp only [List.mem_cons, Prod.mk.injEq, List.not_mem_nil, or_false] at kind
    rcases kind with ⟨rfl, rfl⟩ | ⟨rfl, rfl⟩ | ⟨rfl, rfl⟩
    · exact ⟨rfl, rfl⟩
    · exact ⟨rfl, rfl⟩
    · exact ⟨rfl, rfl⟩

/-- Where the brackets are of one kind, the splitting and the matching count the same ones. -/
theorem BracketsOf.depth_afterAll
    (kind : (opening, closing) ∈ [('(', ')'), ('[', ']'), ('{', '}')])
    (brackets : BracketsOf opening closing text) :
    (Place.afterAll {} text).depth = (text.count opening : Int) - text.count closing := by
  obtain ⟨distinct, opens, closes, noOpening, noClosing⟩ := distinct_of_pair _ kind
  induction text using List.reverseRecOn with
  | nil => rfl
  | append_singleton text c ih =>
    have before := ih (brackets.of_isPrefix (List.prefix_append text [c]))
    have here := brackets text c List.prefix_rfl
    have behind : Place.afterAll {} (text ++ [c]) = (Place.afterAll {} text).after c :=
      Place.afterAll_append {} text [c]
    rw [behind, List.count_append, List.count_append]
    by_cases isOpening : c = opening
    · subst isOpening
      have outside := (here ⟨opens, noOpening.symm⟩).mp (.inl rfl)
      rw [(after_bracket outside kind).1, before, List.count_singleton_self,
        List.count_singleton, beq_eq_false_iff_ne.mpr distinct.symm, if_neg Bool.false_ne_true]
      omega
    · by_cases isClosing : c = closing
      · subst isClosing
        have outside := (here ⟨closes, noClosing.symm⟩).mp (.inr rfl)
        rw [(after_bracket outside kind).2, before, List.count_singleton_self,
          List.count_singleton, beq_eq_false_iff_ne.mpr isOpening, if_neg Bool.false_ne_true]
        omega
      · have same : ((Place.afterAll {} text).after c).depth = (Place.afterAll {} text).depth := by
          by_cases bracket : isDelimiter c = true ∧ c ≠ '"'
          · apply Place.depth_after_of_isQuoted
            rw [← Bool.not_eq_false, ← here bracket]
            exact not_or.mpr ⟨isOpening, isClosing⟩
          · exact Place.depth_after_of_not_bracket bracket
        rw [same, before, List.count_singleton, List.count_singleton,
          beq_eq_false_iff_ne.mpr isOpening, beq_eq_false_iff_ne.mpr isClosing]
        rfl

/-- Where the brackets are of one kind, the splitting finds a text balanced exactly when its
brackets match and its literals are closed. -/
theorem BracketsOf.splitBalanced_iff
    (kind : (opening, closing) ∈ [('(', ')'), ('[', ']'), ('{', '}')])
    (brackets : BracketsOf opening closing text) :
    SplitBalanced text ↔
      Matched opening closing text ∧ (Place.afterAll {} text).quoting = .outside := by
  have depth (front : List Char) (isPrefix : front <+: text) :=
    (brackets.of_isPrefix isPrefix).depth_afterAll kind
  constructor
  · intro balanced
    refine ⟨⟨fun front isPrefix ↦ ?_, ?_⟩, congrArg Place.quoting balanced.settled⟩
    · have covered := balanced.covered front isPrefix
      rw [depth front isPrefix] at covered
      omega
    · have settled := congrArg Place.depth balanced.settled
      rw [depth text List.prefix_rfl] at settled
      change (text.count opening : Int) - text.count closing = 0 at settled
      omega
  · rintro ⟨matched, outside⟩
    refine ⟨fun front isPrefix ↦ ?_, ?_⟩
    · have covered := matched.covered front isPrefix
      rw [depth front isPrefix]
      omega
    · have settled := depth text List.prefix_rfl
      rw [matched.settled, Int.sub_self] at settled
      exact Place.eq_of_isTop (by rw [Place.isTop, outside, settled]; rfl)

end BracketsOf

/-! ## What the matching finds -/

section Found

variable {opening closing : Char} {front text inner : List Char}

/-- The text between the first bracket and the one that closes it: what stands in front of a closing
bracket and has matching brackets. -/
theorem between?_eq_some_iff (distinct : closing ≠ opening) (first : opening ∉ front) :
    between? opening closing (front ++ opening :: (text ++ [closing])) = some inner ↔
      inner ++ [closing] <+: text ++ [closing] ∧ Matched opening closing inner := by
  rw [between?, splitFirst?_append first, Option.bind_some, Option.map_eq_some_iff]
  constructor
  · rintro ⟨⟨inner, rest⟩, found, rfl⟩
    have shape : text ++ [closing] = inner ++ closing :: rest := append_of_splitClosing? found
    refine ⟨⟨rest, ?_⟩, ?_⟩
    · rw [shape, List.append_assoc, List.singleton_append]
    · dsimp only at found
      rw [shape] at found
      exact (splitClosing?_eq_some_iff_matched distinct).mp found
  · rintro ⟨⟨rest, shape⟩, matched⟩
    refine ⟨(inner, rest), ?_, rfl⟩
    rw [← shape, List.append_assoc, List.singleton_append]
    exact (splitClosing?_eq_some_iff_matched distinct).mpr matched

theorem between?_eq_text_iff (distinct : closing ≠ opening) (first : opening ∉ front) :
    between? opening closing (front ++ opening :: (text ++ [closing])) = some text ↔
      Matched opening closing text := by
  rw [between?_eq_some_iff distinct first, and_iff_right List.prefix_rfl]

/-- A text in square brackets is an array literal of what stands between them. -/
theorem listItems?_of_brackets (brackets : trim text = '[' :: (inner ++ [']'])) :
    listItems? text = some (elementItems inner) := by
  have opened : dropStart? ['['] ('[' :: (inner ++ [']'])) = some (inner ++ [']']) :=
    dropStart?_singleton.mpr rfl
  rw [listItems?, brackets, opened, Option.bind_some, dropFinish?_append, Option.map_some]

end Found

/-- What is taken out of the brackets of a call and of an array literal.  Between the parentheses
behind an identifier, and between the first square brackets of a text, everything up to the first
closing bracket is found in front of which the brackets match, all brackets of the kind being
counted and no others.  So the whole of a text is found exactly when its brackets match.  Where the
brackets outside of literals are of the one kind, and those inside are of others, this is so exactly
when the splitting finds the text balanced and no literal is left open; and where the brackets are
nested kind by kind outside of the literals, the splitting finds the text balanced, and all of it is
found when the brackets of the kind match in each literal. -/
theorem bracketMatching_exact (text : List Char) :
    (∀ callee : Identifier,
      (∀ inner, callInner? (callee.chars ++ '(' :: (text ++ [')'])) = some inner ↔
        inner ++ [')'] <+: text ++ [')'] ∧ Matched '(' ')' inner) ∧
      (callInner? (callee.chars ++ '(' :: (text ++ [')'])) = some text ↔ Matched '(' ')' text)) ∧
    (∀ front, '[' ∉ front →
      (∀ inner, between? '[' ']' (front ++ '[' :: (text ++ [']'])) = some inner ↔
        inner ++ [']'] <+: text ++ [']'] ∧ Matched '[' ']' inner) ∧
      (between? '[' ']' (front ++ '[' :: (text ++ [']'])) = some text ↔ Matched '[' ']' text) ∧
      (Matched '[' ']' text → firstList? (front ++ '[' :: (text ++ [']'])) =
        listItems? ('[' :: (text ++ [']'])))) ∧
    ∀ opening closing, (opening, closing) ∈ [('(', ')'), ('[', ']'), ('{', '}')] →
      (BracketsOf opening closing text →
        (SplitBalanced text ↔
          Matched opening closing text ∧ (Place.afterAll {} text).quoting = .outside)) ∧
      (Bracketed (Matched opening closing) text →
        SplitBalanced text ∧ Matched opening closing text) := by
  refine ⟨fun callee ↦ ?call, fun front first ↦ ?list, fun opening closing kind ↦ ?agree⟩
  case call =>
    have first : '(' ∉ callee.chars := callee.not_mem_chars (by decide)
    exact ⟨fun inner ↦ between?_eq_some_iff (by decide) first,
      between?_eq_text_iff (by decide) first⟩
  case list =>
    refine ⟨fun inner ↦ between?_eq_some_iff (by decide) first,
      between?_eq_text_iff (by decide) first, fun matched ↦ ?_⟩
    have trimmed : Trimmed ('[' :: (text ++ [']'])) :=
      trimmed_enclosed text (by decide) (by decide)
    rw [firstList?, (between?_eq_text_iff (by decide) first).mpr matched, Option.map_some,
      listItems?_of_brackets trimmed.trim_eq]
  case agree =>
    exact ⟨fun brackets ↦ brackets.splitBalanced_iff kind,
      fun bracketed ↦ ⟨bracketed.splitBalanced, bracketed.matched_pair kind⟩⟩

/-- Colors with an asset whose name has parentheses that match, and one with a range of numbers. -/
def namedColors : List Char :=
  "Color(\"a (b)\"), Color(\"[0, 1]\")".toList

theorem bracketMatching_exact_namedColors :
    callInner? ("f".toList ++ '(' :: (namedColors ++ [')'])) = some namedColors ∧
      firstList? ("colors: ".toList ++ '[' :: (namedColors ++ [']'])) = some ["b", "Color"] := by
  have matched {opening closing : Char} (distinct : closing ≠ opening)
      (found : splitClosing? opening closing 0 (namedColors ++ [closing]) = some (namedColors, [])) :
      Matched opening closing namedColors :=
    (splitClosing?_eq_some_iff_matched distinct).mp found
  obtain ⟨call, list, -⟩ := bracketMatching_exact namedColors
  refine ⟨(call ⟨"f".toList, by decide⟩).2.mpr (matched (by decide) (by decide)), ?_⟩
  rw [(list "colors: ".toList (by decide)).2.2 (matched (by decide) (by decide))]
  decide

/-- The arguments of a font whose family has a parenthesis alone in its name. -/
def oddFamily : List Char :=
  "\"Odd)\", size: 20".toList

theorem bracketed_oddFamily : Bracketed (fun _ ↦ True) oddFamily := by
  have found : quotedContent? ("Odd)".toList ++ ['"']) = some "Odd)".toList := by decide
  exact .quoted found trivial (bracketed_of_all (by decide))

/-- The matching may end inside of a literal, though the splitting finds the text balanced. -/
theorem literal_cuts_arguments :
    ¬ ∀ (callee : Identifier) (text : List Char), SplitBalanced text →
      callInner? (callee.chars ++ '(' :: (text ++ [')'])) = some text := by
  intro whole
  have found := whole ⟨"custom".toList, by decide⟩ oddFamily bracketed_oddFamily.splitBalanced
  have cut : callInner? ("custom".toList ++ '(' :: (oddFamily ++ [')'])) =
      some "\"Odd".toList := by decide
  exact absurd (cut.symm.trans found) (by decide)

end ViewPreview.Call
