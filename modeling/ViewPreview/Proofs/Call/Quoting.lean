import Mathlib.Algebra.Group.Nat.Even
import ViewPreview.Call.Nesting
import ViewPreview.Proofs.Text.Stripped

/-!
# Comments Inside Literals

Where arguments are split, a backslash inside a string literal escapes the quote behind it; where
comments are removed, every quote counts.  The two agree on what lies inside a literal up to the
number of escaped quotes, so a comment is found inside a literal exactly behind an odd number of
them.
-/

namespace ViewPreview.Call

open ViewPreview.Text

namespace Place

/-- The place behind a text. -/
def afterAll (place : Place) (text : List Char) : Place :=
  text.foldl after place

/-- Whether a place is inside a string literal. -/
def isQuoted (place : Place) : Bool :=
  place.quoting != .outside

/-- The number of quotes in a text that a backslash inside a literal escapes. -/
def escapedQuotes : Place → List Char → Nat
  | _, [] => 0
  | place, c :: text =>
    (if place.quoting = .escaped ∧ c = '"' then 1 else 0) + escapedQuotes (place.after c) text

section After

variable {place : Place} (c : Char)

theorem isQuoted_after_outside (outside : place.quoting = .outside) :
    (place.after c).isQuoted = (c == '"') := by
  unfold after isQuoted
  simp only [outside]
  by_cases quote : c = '"'
  · rw [if_pos quote, quote]
    rfl
  · rw [if_neg quote, beq_eq_false_iff_ne.mpr quote]
    split
    · rfl
    · split
      · rfl
      · rw [outside]
        rfl

theorem isQuoted_after_inside (inside : place.quoting = .inside) :
    (place.after c).isQuoted = (c != '"') := by
  unfold after isQuoted
  simp only [inside]
  by_cases backslash : c = '\\'
  · rw [if_pos backslash, backslash]
    rfl
  · by_cases quote : c = '"'
    · rw [if_neg backslash, if_pos quote, quote]
      rfl
    · rw [if_neg backslash, if_neg quote, inside, bne_iff_ne.mpr quote]
      rfl

theorem isQuoted_after_escaped (escaped : place.quoting = .escaped) :
    (place.after c).isQuoted = true := by
  unfold after isQuoted
  simp only [escaped]
  rfl

end After

theorem afterAll_append (place : Place) (first second : List Char) :
    place.afterAll (first ++ second) = (place.afterAll first).afterAll second :=
  List.foldl_append

/-- Every quote but an escaped one leads into a literal or out of it. -/
theorem quotes_after (place : Place) (c : Char) :
    (place.isQuoted.toNat + if c = '"' then 1 else 0) % 2 =
      ((place.after c).isQuoted.toNat +
        if place.quoting = .escaped ∧ c = '"' then 1 else 0) % 2 := by
  cases quoting : place.quoting with
  | outside =>
    have before : place.isQuoted = false := by rw [isQuoted, quoting]; rfl
    rw [isQuoted_after_outside c quoting, before]
    by_cases quote : c = '"'
    · rw [quote]
      rfl
    · simp [quote, beq_eq_false_iff_ne.mpr quote]
  | inside =>
    have before : place.isQuoted = true := by rw [isQuoted, quoting]; rfl
    rw [isQuoted_after_inside c quoting, before]
    by_cases quote : c = '"'
    · rw [quote]
      rfl
    · simp [quote, bne_iff_ne.mpr quote]
  | escaped =>
    have before : place.isQuoted = true := by rw [isQuoted, quoting]; rfl
    rw [isQuoted_after_escaped c quoting, before]
    by_cases quote : c = '"'
    · rw [quote]
      rfl
    · simp [quote]

/-- Among the quotes of a text there are, up to an even number, the escaped ones and one more if the
text begins or ends inside a literal. -/
theorem quotes_afterAll (place : Place) (text : List Char) :
    (place.isQuoted.toNat + text.count '"') % 2 =
      ((place.afterAll text).isQuoted.toNat + escapedQuotes place text) % 2 := by
  induction text generalizing place with
  | nil => rfl
  | cons c text ih =>
    have first := quotes_after place c
    have rest := ih (place.after c)
    simp only [List.count_cons, beq_iff_eq, escapedQuotes, afterAll, List.foldl_cons] at rest ⊢
    omega

end Place

/-- Whether what comes behind the front of a line lies inside a string literal: the front leaves a
literal open, and no comment begins in it outside of literals. -/
def InLiteral (front : List Char) : Prop :=
  (Place.afterAll {} front).isQuoted = true ∧
    ∀ before, before ++ ['/', '/'] <+: front → (Place.afterAll {} before).isQuoted = true

section InLiteral

variable {front before line : List Char}

theorem InLiteral.of_isPrefix (inLiteral : InLiteral front) (isPrefix : before <+: front)
    (quoted : (Place.afterAll {} before).isQuoted = true) : InLiteral before :=
  ⟨quoted, fun earlier slashes ↦ inLiteral.2 earlier (slashes.trans isPrefix)⟩

/-- Inside a literal the quotes on the line are even in number when the escaped ones are odd. -/
theorem InLiteral.count_quotes (inLiteral : InLiteral front) :
    front.count '"' % 2 = 0 ↔ ¬Even (Place.escapedQuotes {} front) := by
  have quotes : (Place.isQuoted {}).toNat + front.count '"' =
      front.count '"' := Nat.zero_add _
  have parity := Place.quotes_afterAll {} front
  rw [quotes, inLiteral.1, Bool.toNat_true] at parity
  rw [Nat.even_iff, parity]
  omega

/-- Slashes outside of literals do not begin in front of what lies inside a literal. -/
theorem InLiteral.isQuoted_of_isPrefix {c : Char} (inLiteral : InLiteral front)
    (whole : front ++ [c] <+: line) (slashes : before ++ ['/', '/'] <+: line)
    (isPrefix : before <+: front) : (Place.afterAll {} before).isQuoted = true := by
  obtain ⟨between, rfl⟩ := isPrefix
  have both := List.prefix_or_prefix_of_prefix slashes whole
  rw [List.append_assoc, List.prefix_append_right_inj, List.prefix_append_right_inj] at both
  match between with
  | [] =>
    rw [List.append_nil] at inLiteral
    exact inLiteral.1
  | [slash] =>
    -- Behind a single slash outside of literals a line is still outside of them.
    have isSlash : slash = '/' := by
      rcases both with isPrefix | isPrefix
      · exact (List.cons_prefix_cons.mp isPrefix).1.symm
      · exact (List.cons_prefix_cons.mp isPrefix).1
    rw [isSlash] at inLiteral
    by_contra outside
    have quoting : (Place.afterAll {} before).quoting = .outside := by
      simpa [Place.isQuoted] using outside
    have still := Place.isQuoted_after_outside '/' quoting
    have quoted := inLiteral.1
    rw [Place.afterAll_append] at quoted
    exact absurd (quoted.symm.trans still) (by decide)
  | first :: second :: between =>
    apply inLiteral.2 before
    rw [List.prefix_append_right_inj]
    simpa using both

/-- A text without line breaks is stripped as one line. -/
theorem stripComments_of_not_mem (oneLine : '\n' ∉ line) :
    stripComments line = beforeComment false line := by
  by_cases empty : line = []
  · rw [empty]
    rfl
  · rw [stripComments, lines_of_not_mem oneLine empty, List.flatMap_singleton, List.append_nil]

/-- Comments are removed without removing anything inside a string literal exactly when no two
slashes inside a literal stand behind an odd number of escaped quotes. -/
theorem stripComments_keeps_literals_iff (oneLine : '\n' ∉ line) :
    (∀ front c back, line = front ++ c :: back → InLiteral front →
        front ++ [c] <+: stripComments line) ↔
      ∀ front back, line = front ++ '/' :: '/' :: back → InLiteral front →
        Even (Place.escapedQuotes {} front) := by
  rw [stripComments_of_not_mem oneLine]
  have cut := isCut_beforeComment false line
  generalize beforeComment false line = kept at cut ⊢
  constructor
  · intro keeps front back shape inLiteral
    by_contra odd
    have slashes : front ++ ['/', '/'] <+: line := ⟨back, by rw [shape, List.append_assoc]; rfl⟩
    have begins : CommentBehind false line front := by
      refine ⟨?_, slashes⟩
      rw [Bool.toNat_false, Nat.zero_add, inLiteral.count_quotes]
      exact odd
    have longer := (keeps front '/' ('/' :: back) shape inLiteral).length_le
    rw [List.length_append, List.length_singleton] at longer
    cases cut with
    | comment _ first => exact absurd (first front begins) (Nat.not_le_of_lt longer)
    | whole none => exact none front begins
  · intro even front c back shape inLiteral
    have whole : front ++ [c] <+: line := ⟨back, by rw [shape, List.append_assoc]; rfl⟩
    cases cut with
    | whole none => exact whole
    | comment begins _ =>
      obtain ⟨evenQuotes, slashes⟩ := begins
      have keptLine : kept <+: line := (List.prefix_append _ _).trans slashes
      rcases List.prefix_or_prefix_of_prefix whole keptLine with isPrefix | isPrefix
      · exact isPrefix
      · rcases List.prefix_concat_iff.mp isPrefix with same | before
        · exact same ▸ List.prefix_rfl
        · have inside : InLiteral kept :=
            inLiteral.of_isPrefix before (inLiteral.isQuoted_of_isPrefix whole slashes before)
          obtain ⟨behind, rfl⟩ := slashes
          rw [Bool.toNat_false, Nat.zero_add, inside.count_quotes] at evenQuotes
          exact absurd (even kept behind (List.append_assoc _ _ _) inside) evenQuotes

/-- A link whose title ends in a quoted word, before a location and a comment. -/
def quotedTitleLink : List Char :=
  "Link(\"the \\\"docs\\\"\", destination: \"https://a.b\") // \"docs\"".toList

theorem stripComments_keeps_literals_quotedTitleLink :
    '\n' ∉ quotedTitleLink ∧
      ∀ front c back, quotedTitleLink = front ++ c :: back → InLiteral front →
        front ++ [c] <+: stripComments quotedTitleLink := by
  have oneLine : '\n' ∉ quotedTitleLink := by decide +kernel
  refine ⟨oneLine, (stripComments_keeps_literals_iff oneLine).mpr fun front back shape _ ↦ ?_⟩
  have fronts : ∀ k < quotedTitleLink.length, (quotedTitleLink.drop k).take 2 = ['/', '/'] →
      Even (Place.escapedQuotes {} (quotedTitleLink.take k)) := by
    decide +kernel
  have place := fronts front.length
  rw [shape, List.take_left, List.drop_left, List.length_append] at place
  exact place (Nat.lt_add_of_pos_right (Nat.succ_pos _)) rfl

/-- A comment may be found inside a literal that is closed: behind an escaped quote. -/
theorem escapedQuote_uncovers_comment :
    ¬ ∀ line : List Char, '\n' ∉ line → (Place.afterAll {} line).isQuoted = false →
      ∀ front c back, line = front ++ c :: back → InLiteral front →
        front ++ [c] <+: stripComments line := by
  intro keeps
  have inLiteral : InLiteral "Text(\"a\\\"".toList := by
    refine ⟨by decide, fun before slashes ↦ ?_⟩
    have slash : '/' ∈ "Text(\"a\\\"".toList :=
      slashes.subset (List.mem_append_right before List.mem_cons_self)
    exact absurd slash (by decide)
  have kept := keeps "Text(\"a\\\"//b\")".toList (by decide) (by decide) "Text(\"a\\\"".toList '/'
    "/b\")".toList rfl inLiteral
  exact absurd kept (by decide)

end InLiteral

end ViewPreview.Call
