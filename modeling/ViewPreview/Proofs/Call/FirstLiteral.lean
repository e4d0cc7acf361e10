import ViewPreview.Proofs.Spelling.Literal

/-!
# The First String Literal of a Text

A string literal runs from a quote to the next quote that no backslash escapes.  What is read of a
text is the literal that begins first in it, wherever it stands.  A text counts as quoted when its
first and last characters are quotes, and this is less than being one literal: where a quote between
them is not escaped, the text is read up to that quote and the rest of it is left out.
-/

namespace ViewPreview.Call

open ViewPreview.Text ViewPreview.Spelling

variable {text front content back : List Char}

/-! ## The contents of literals -/

theorem exists_of_quotedContent? (found : quotedContent? text = some content) :
    LiteralContent content ∧ ∃ rest, text = content ++ '"' :: rest := by
  fun_induction quotedContent? text generalizing content with
  | case1 => cases found
  | case2 text =>
    cases found
    exact ⟨.nil, text, rfl⟩
  | case3 => cases found
  | case4 => cases found
  | case5 c text inLine ih =>
    obtain ⟨behind, foundBehind, rfl⟩ := Option.map_eq_some_iff.mp found
    obtain ⟨isContent, rest, rfl⟩ := ih foundBehind
    exact ⟨.escaped inLine isContent, rest, rfl⟩
  | case6 c text noQuote noEnd noEscape ih =>
    obtain ⟨behind, foundBehind, rfl⟩ := Option.map_eq_some_iff.mp found
    obtain ⟨isContent, rest, rfl⟩ := ih foundBehind
    have ordinary : ¬(c = '"' ∨ c = '\\') := by
      rintro (quote | backslash)
      · exact noQuote quote
      · cases shape : behind ++ '"' :: rest with
        | nil => exact List.append_ne_nil_of_right_ne_nil _ (List.cons_ne_nil _ _) shape
        | cons d others => exact noEscape d others backslash shape
    exact ⟨.plain ordinary isContent, rest, rfl⟩

theorem quotedContent?_eq_some_iff :
    quotedContent? text = some content ↔
      LiteralContent content ∧ ∃ rest, text = content ++ '"' :: rest := by
  constructor
  · exact exists_of_quotedContent?
  · rintro ⟨isContent, rest, rfl⟩
    exact isContent.quotedContent?_append rest

/-! ## The first literal -/

/-- Whether a string literal begins behind the front of a text. -/
def LiteralBehind (text front : List Char) : Prop :=
  ∃ content back, LiteralContent content ∧ text = front ++ '"' :: (content ++ '"' :: back)

/-- The first string literal of a text: what stands in front of it, between its quotes, and behind
it. -/
structure IsFirstLiteral (text front content back : List Char) : Prop where
  shape : text = front ++ '"' :: (content ++ '"' :: back)
  isContent : LiteralContent content
  first : ∀ earlier, LiteralBehind text earlier → front.length ≤ earlier.length

theorem literalBehind_cons_iff {c : Char} :
    LiteralBehind (c :: text) (c :: front) ↔ LiteralBehind text front := by
  unfold LiteralBehind
  simp only [List.cons_append, List.cons.injEq, true_and]

theorem exists_of_literalBehind_cons {c d : Char}
    (behind : LiteralBehind (c :: text) (d :: front)) : d = c := by
  obtain ⟨content, back, -, shape⟩ := behind
  exact (List.cons.inj shape).1.symm

theorem IsFirstLiteral.literalBehind (isFirst : IsFirstLiteral text front content back) :
    LiteralBehind text front :=
  ⟨content, back, isFirst.isContent, isFirst.shape⟩

theorem not_literalBehind_nil (front : List Char) : ¬LiteralBehind [] front := by
  rintro ⟨content, back, -, shape⟩
  exact List.append_ne_nil_of_right_ne_nil front (List.cons_ne_nil _ _) shape.symm

theorem literalBehind_nil_iff {c : Char} :
    LiteralBehind (c :: text) [] ↔ c = '"' ∧ (quotedContent? text).isSome = true := by
  rw [Option.isSome_iff_exists]
  constructor
  · rintro ⟨content, back, isContent, shape⟩
    obtain ⟨quote, behind⟩ := List.cons.inj shape
    exact ⟨quote, content, quotedContent?_eq_some_iff.mpr ⟨isContent, back, behind⟩⟩
  · rintro ⟨rfl, content, found⟩
    obtain ⟨isContent, back, behind⟩ := quotedContent?_eq_some_iff.mp found
    exact ⟨content, back, isContent, congrArg ('"' :: ·) behind⟩

/-- Behind a first character at which no literal begins the first literal is that of the rest. -/
theorem IsFirstLiteral.cons {c : Char} (none : ¬LiteralBehind (c :: text) [])
    (isFirst : IsFirstLiteral text front content back) :
    IsFirstLiteral (c :: text) (c :: front) content back where
  shape := congrArg (c :: ·) isFirst.shape
  isContent := isFirst.isContent
  first earlier behind := by
    cases earlier with
    | nil => exact absurd behind none
    | cons d earlier =>
      obtain rfl := exists_of_literalBehind_cons behind
      exact Nat.succ_le_succ (isFirst.first earlier (literalBehind_cons_iff.mp behind))

theorem firstQuoted?_cons {c : Char} (none : ¬LiteralBehind (c :: text) []) :
    firstQuoted? (c :: text) = firstQuoted? text := by
  by_cases quote : c = '"'
  · rw [literalBehind_nil_iff, and_iff_right quote, Bool.not_eq_true, Option.isSome_eq_false_iff,
      Option.isNone_iff_eq_none] at none
    rw [quote, firstQuoted?, none, Option.none_or]
  · rw [firstQuoted?]
    exact quote

/-- The first literal of a text is what is read of it, and nothing is read where there is none. -/
theorem firstQuoted?_spec (text : List Char) :
    (firstQuoted? text = none ∧ ∀ front, ¬LiteralBehind text front) ∨
      ∃ front content back, IsFirstLiteral text front content back ∧
        firstQuoted? text = some content := by
  induction text with
  | nil => exact .inl ⟨rfl, not_literalBehind_nil⟩
  | cons c text ih =>
    by_cases here : LiteralBehind (c :: text) []
    · obtain ⟨content, back, isContent, shape⟩ := here
      obtain ⟨rfl, behind⟩ := List.cons.inj shape
      have found := quotedContent?_eq_some_iff.mpr ⟨isContent, back, behind⟩
      refine .inr ⟨[], content, back, ⟨shape, isContent, fun _ _ ↦ Nat.zero_le _⟩, ?_⟩
      rw [firstQuoted?, found, Option.some_or]
    · rw [firstQuoted?_cons here]
      rcases ih with ⟨nothing, none⟩ | ⟨front, content, back, isFirst, found⟩
      · refine .inl ⟨nothing, fun front behind ↦ ?_⟩
        cases front with
        | nil => exact here behind
        | cons d front =>
          obtain rfl := exists_of_literalBehind_cons behind
          exact none front (literalBehind_cons_iff.mp behind)
      · exact .inr ⟨c :: front, content, back, isFirst.cons here, found⟩

/-- A text has one first literal. -/
theorem IsFirstLiteral.content_eq {otherFront otherContent otherBack : List Char}
    (isFirst : IsFirstLiteral text front content back)
    (other : IsFirstLiteral text otherFront otherContent otherBack) : content = otherContent := by
  have length : front.length = otherFront.length :=
    Nat.le_antisymm (isFirst.first _ other.literalBehind) (other.first _ isFirst.literalBehind)
  have same := isFirst.shape.symm.trans other.shape
  have behind := (List.append_inj same length).2
  have read := isFirst.isContent.quotedContent?_append back
  rw [(List.cons.inj behind).2, other.isContent.quotedContent?_append] at read
  exact Option.some.inj read.symm

theorem IsFirstLiteral.firstQuoted?_eq (isFirst : IsFirstLiteral text front content back) :
    firstQuoted? text = some content := by
  rcases firstQuoted?_spec text with ⟨-, none⟩ | ⟨_, _, _, other, found⟩
  · exact absurd isFirst.literalBehind (none front)
  · rw [found, isFirst.content_eq other]

theorem IsFirstLiteral.stringLiteral?_eq (isFirst : IsFirstLiteral text front content back) :
    stringLiteral? text = some (String.ofList (unescape content)) := by
  rw [stringLiteral?, isFirst.firstQuoted?_eq, Option.map_some]

/-! ## Quoted texts -/

/-- No literal begins before the first quote. -/
theorem length_le_of_literalBehind {before rest : List Char} (noQuote : '"' ∉ before)
    (behind : LiteralBehind (before ++ rest) front) : before.length ≤ front.length := by
  induction before generalizing front with
  | nil => exact Nat.zero_le _
  | cons c before ih =>
    rw [List.mem_cons, not_or] at noQuote
    cases front with
    | nil => exact absurd (literalBehind_nil_iff.mp behind).1.symm noQuote.1
    | cons d front =>
      obtain rfl := exists_of_literalBehind_cons behind
      exact Nat.succ_le_succ (ih noQuote.2 (literalBehind_cons_iff.mp behind))

/-- A literal that begins at the first quote is the first one. -/
theorem isFirstLiteral_of_not_mem (noQuote : '"' ∉ front) (isContent : LiteralContent content) :
    IsFirstLiteral (front ++ '"' :: (content ++ '"' :: back)) front content back where
  shape := rfl
  isContent := isContent
  first _ behind := length_le_of_literalBehind noQuote behind

theorem isQuoted_iff :
    isQuoted text = true ↔ ∃ inner, trim text = '"' :: (inner ++ ['"']) := by
  unfold isQuoted
  constructor
  · intro quoted
    split at quoted
    · next rest begins =>
      obtain ⟨inner, rfl⟩ := List.getLast?_eq_some_iff.mp (beq_iff_eq.mp quoted)
      exact ⟨inner, begins⟩
    · cases quoted
  · rintro ⟨inner, shape⟩
    rw [shape]
    exact beq_iff_eq.mpr List.getLast?_concat

theorem quote_not_mem_of_isBlank (blank : ∀ c ∈ front, isBlank c = true) : '"' ∉ front :=
  fun member ↦ absurd (blank '"' member) (by decide)

/-- What stands outside of a literal that is all of a text, blanks apart, is blank, and the other
way round. -/
theorem IsFirstLiteral.trim_eq (isFirst : IsFirstLiteral text front content back)
    (blank : ∀ c ∈ front ++ back, isBlank c = true) : trim text = '"' :: (content ++ ['"']) := by
  have trimmed : Trimmed ('"' :: (content ++ ['"'])) :=
    trimmed_enclosed content (by decide) (by decide)
  obtain ⟨blankFront, blankBack⟩ := List.forall_mem_append.mp blank
  have shape : text = front ++ (('"' :: (content ++ ['"'])) ++ back) := by
    rw [isFirst.shape, List.cons_append, List.append_assoc, List.singleton_append]
  rw [shape, trimmed.trim_append (List.cons_ne_nil _ _) blankFront blankBack]

/-- What is read of a text that begins and ends with a quote.  It is all that stands between these
quotes if this is the content of one literal, and what stands in front of the first quote among it
that is not escaped if there is one.  If it is not the content of one literal, then there is no
literal in the text at all and nothing is read, or something besides blanks is left out in front of
the literal that is read or behind it. -/
theorem stringLiteral?_of_isQuoted (quoted : isQuoted text = true) :
    ∃ inner, trim text = '"' :: (inner ++ ['"']) ∧
      (LiteralContent inner → stringLiteral? text = some (String.ofList (unescape inner))) ∧
      (∀ content rest, inner = content ++ '"' :: rest → LiteralContent content →
        stringLiteral? text = some (String.ofList (unescape content))) ∧
      (¬LiteralContent inner →
        stringLiteral? text = none ∧ (∀ front, ¬LiteralBehind text front) ∨
          ∃ front content back, IsFirstLiteral text front content back ∧
            stringLiteral? text = some (String.ofList (unescape content)) ∧
              ∃ c ∈ front ++ back, isBlank c = false) := by
  obtain ⟨inner, shape⟩ := isQuoted_iff.mp quoted
  obtain ⟨before, after, around, blankBefore, -⟩ := exists_blanks_trim text
  have noQuote := quote_not_mem_of_isBlank blankBefore
  have quotes : text = before ++ '"' :: (inner ++ '"' :: after) := by
    rw [around, shape, List.cons_append, List.append_assoc, List.singleton_append]
  refine ⟨inner, shape, ?whole, ?cut, ?broken⟩
  case whole =>
    intro isContent
    rw [quotes]
    exact (isFirstLiteral_of_not_mem noQuote isContent).stringLiteral?_eq
  case cut =>
    rintro content rest rfl isContent
    rw [quotes, List.append_assoc, List.cons_append]
    exact (isFirstLiteral_of_not_mem noQuote isContent).stringLiteral?_eq
  case broken =>
    intro broken
    rcases firstQuoted?_spec text with ⟨nothing, none⟩ | ⟨front, content, back, isFirst, -⟩
    · refine .inl ⟨?_, none⟩
      rw [stringLiteral?, nothing, Option.map_none]
    · refine .inr ⟨front, content, back, isFirst, isFirst.stringLiteral?_eq, ?_⟩
      cases blank : (front ++ back).all isBlank with
      | false =>
        obtain ⟨c, member, visible⟩ := List.all_eq_false.mp blank
        exact ⟨c, member, Bool.eq_false_iff.mpr visible⟩
      | true =>
        -- A literal with blanks around it would have what is between the outer quotes as its content.
        have same := shape.symm.trans (isFirst.trim_eq (List.all_eq_true.mp blank))
        have content_eq := List.append_cancel_right (List.cons.inj same).2
        exact absurd (content_eq ▸ isFirst.isContent) broken

/-- A literal with escaped quotes, joined with a name and a second literal, and blanks around. -/
def joinedLiterals : List Char :=
  " \"say \\\"a\\\" \" + name + \"!\" ".toList

theorem joinedLiterals_inner {inner : List Char}
    (shape : trim joinedLiterals = '"' :: (inner ++ ['"'])) :
    inner = "say \\\"a\\\" ".toList ++ '"' :: " + name + \"!".toList := by
  have trimmed : trim joinedLiterals =
      '"' :: (("say \\\"a\\\" ".toList ++ '"' :: " + name + \"!".toList) ++ ['"']) := by
    decide
  exact List.append_cancel_right (List.cons.inj (shape.symm.trans trimmed)).2

theorem stringLiteral?_of_isQuoted_joinedLiterals :
    isQuoted joinedLiterals = true ∧ stringLiteral? joinedLiterals = some "say \"a\" " := by
  have quoted : isQuoted joinedLiterals = true := by decide
  obtain ⟨inner, shape, -, cut, -⟩ := stringLiteral?_of_isQuoted quoted
  have found : quotedContent? ("say \\\"a\\\" ".toList ++ ['"']) =
      some "say \\\"a\\\" ".toList := by decide
  exact ⟨quoted, cut _ _ (joinedLiterals_inner shape) (quotedContent?_eq_some_iff.mp found).1⟩

/-- A text that begins and ends with a quote need not be read in full. -/
theorem joinedLiterals_cut :
    ¬ ∀ text : List Char, isQuoted text = true →
      ∃ inner, trim text = '"' :: (inner ++ ['"']) ∧ LiteralContent inner ∧
        stringLiteral? text = some (String.ofList (unescape inner)) := by
  intro whole
  obtain ⟨inner, shape, -, read⟩ := whole joinedLiterals (by decide)
  rw [joinedLiterals_inner shape] at read
  exact absurd read (by decide)

end ViewPreview.Call
