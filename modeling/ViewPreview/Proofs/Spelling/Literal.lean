import ViewPreview.Proofs.Call.Nesting
import ViewPreview.Proofs.Text.Span

/-!
# String Literals

Any text can be written as a string literal: a backslash goes before each quote and each backslash
in it, and everything else stands for itself.  The literal is read back as the text, and nothing in
it separates arguments, because the splitting passes over escaped characters as the reading does.
-/

namespace ViewPreview.Spelling

open ViewPreview.Text ViewPreview.Call

/-! ## Escaping -/

/-- A character as it is written in a string literal. -/
def escapeChar (c : Char) : List Char :=
  if c = '"' ∨ c = '\\' then ['\\', c] else [c]

/-- A text as it is written in a string literal. -/
def escape (text : List Char) : List Char :=
  text.flatMap escapeChar

/-- The string literal of a string. -/
def literal (content : String) : List Char :=
  '"' :: (escape content.toList ++ ['"'])

theorem escape_cons_special {c : Char} (special : c = '"' ∨ c = '\\') (text : List Char) :
    escape (c :: text) = '\\' :: c :: escape text := by
  rw [escape, List.flatMap_cons, escapeChar, if_pos special]
  rfl

theorem escape_cons_plain {c : Char} (plain : ¬(c = '"' ∨ c = '\\')) (text : List Char) :
    escape (c :: text) = c :: escape text := by
  rw [escape, List.flatMap_cons, escapeChar, if_neg plain]
  rfl

/-- What needs no backslash stands for itself. -/
theorem escape_eq_self {text : List Char} (plain : ∀ c ∈ text, ¬(c = '"' ∨ c = '\\')) :
    escape text = text := by
  induction text with
  | nil => rfl
  | cons c text ih =>
    obtain ⟨here, later⟩ := List.forall_mem_cons.mp plain
    rw [escape_cons_plain here, ih later]

theorem mem_of_mem_escape {c : Char} {text : List Char} (member : c ∈ escape text) :
    c = '\\' ∨ c ∈ text := by
  obtain ⟨d, inside, written⟩ := List.mem_flatMap.mp member
  rw [escapeChar] at written
  split at written
  · rcases List.mem_cons.mp written with backslash | same
    · exact .inl backslash
    · exact .inr (List.mem_singleton.mp same ▸ inside)
  · exact .inr (List.mem_singleton.mp written ▸ inside)

/-! ## Contents -/

/-- Whether a text can stand between the quotes of a literal: a backslash escapes each quote in it,
and each backslash escapes the character behind it, which is no line break. -/
inductive LiteralContent : List Char → Prop
  | nil : LiteralContent []
  | plain {c : Char} {content : List Char} (ordinary : ¬(c = '"' ∨ c = '\\'))
      (behind : LiteralContent content) : LiteralContent (c :: content)
  | escaped {c : Char} {content : List Char} (inLine : c ≠ '\n')
      (behind : LiteralContent content) : LiteralContent ('\\' :: c :: content)

/-- An escaped text is the content of a literal. -/
theorem literalContent_escape (text : List Char) : LiteralContent (escape text) := by
  induction text with
  | nil => exact .nil
  | cons c text ih =>
    by_cases special : c = '"' ∨ c = '\\'
    · have inLine : c ≠ '\n' := by
        rcases special with rfl | rfl
        · decide
        · decide
      rw [escape_cons_special special]
      exact .escaped inLine ih
    · rw [escape_cons_plain special]
      exact .plain special ih

/-! ## Reading -/

theorem unescape_cons_plain {c : Char} (noBackslash : c ≠ '\\') (text : List Char) :
    unescape (c :: text) = c :: unescape text := by
  rw [unescape]
  · exact fun _ backslash _ ↦ noBackslash backslash
  · exact fun _ backslash _ ↦ noBackslash backslash

/-- Escaping is undone exactly. -/
theorem unescape_escape (text : List Char) : unescape (escape text) = text := by
  induction text with
  | nil => rfl
  | cons c text ih =>
    by_cases special : c = '"' ∨ c = '\\'
    · rw [escape_cons_special special]
      rcases special with rfl | rfl
      · rw [unescape, ih]
      · rw [unescape, ih]
    · have noBackslash : c ≠ '\\' := fun backslash ↦ special (.inr backslash)
      rw [escape_cons_plain special, unescape_cons_plain noBackslash, ih]

theorem quotedContent?_cons_plain {c : Char} (plain : ¬(c = '"' ∨ c = '\\')) (text : List Char) :
    quotedContent? (c :: text) = (quotedContent? text).map fun content ↦ c :: content := by
  rw [quotedContent?]
  · exact fun quote ↦ plain (.inl quote)
  · exact fun backslash _ ↦ plain (.inr backslash)
  · exact fun _ _ backslash _ ↦ plain (.inr backslash)

/-- The content of a literal is read up to the quote behind it. -/
theorem LiteralContent.quotedContent?_append {content : List Char}
    (isContent : LiteralContent content) (rest : List Char) :
    quotedContent? (content ++ '"' :: rest) = some content := by
  induction isContent with
  | nil => rfl
  | plain ordinary _ ih =>
    rw [List.cons_append, quotedContent?_cons_plain ordinary, ih, Option.map_some]
  | escaped inLine _ ih =>
    rw [List.cons_append, List.cons_append, quotedContent?, if_neg inLine, ih, Option.map_some]

/-- A string literal is read back, whatever follows it. -/
theorem stringLiteral?_append (content : String) (rest : List Char) :
    stringLiteral? (literal content ++ rest) = some content := by
  have found : firstQuoted? (literal content ++ rest) = some (escape content.toList) := by
    rw [literal, List.cons_append, List.append_assoc, List.singleton_append, firstQuoted?,
      (literalContent_escape content.toList).quotedContent?_append, Option.some_or]
  rw [stringLiteral?, found, Option.map_some, unescape_escape, String.ofList_toList]

theorem stringLiteral?_literal (content : String) :
    stringLiteral? (literal content) = some content := by
  have read := stringLiteral?_append content []
  rwa [List.append_nil] at read

theorem trimmed_literal (content : String) : Trimmed (literal content) :=
  trimmed_enclosed _ (by decide) (by decide)

theorem isQuoted_literal (content : String) : isQuoted (literal content) = true := by
  rw [isQuoted, (trimmed_literal content).trim_eq]
  show ((escape content.toList ++ ['"']).getLast? == some '"') = true
  rw [List.getLast?_concat, beq_self_eq_true]

/-! ## Splitting -/

theorem unsplit_escape (separator : Char) (depth : Int) (text : List Char) :
    Unsplit separator ⟨.inside, depth⟩ ⟨.inside, depth⟩ (escape text) := by
  induction text with
  | nil => exact unsplit_nil
  | cons c text ih =>
    by_cases special : c = '"' ∨ c = '\\'
    · rw [escape_cons_special special]
      have backslash : Unsplit separator ⟨.inside, depth⟩ ⟨.escaped, depth⟩ ['\\'] :=
        unsplit_singleton rfl
      have escaped : Unsplit separator ⟨.escaped, depth⟩ ⟨.inside, depth⟩ [c] :=
        unsplit_singleton rfl
      exact backslash.append (escaped.append ih)
    · rw [escape_cons_plain special]
      have plain : Unsplit separator ⟨.inside, depth⟩ ⟨.inside, depth⟩ [c] := by
        have stays := after_inside (fun backslash ↦ special (.inr backslash))
          (fun quote ↦ special (.inl quote)) depth
        have passed : Unsplit separator ⟨.inside, depth⟩ (Place.after ⟨.inside, depth⟩ c) [c] :=
          unsplit_singleton rfl
        rwa [stays] at passed
      exact plain.append ih

/-- Nothing separates inside a string literal. -/
theorem unsplit_literal (separator : Char) (depth : Int) (content : String) :
    Unsplit separator ⟨.outside, depth⟩ ⟨.outside, depth⟩ (literal content) := by
  have opening : Unsplit separator ⟨.outside, depth⟩ ⟨.inside, depth⟩ ['"'] :=
    unsplit_singleton (Bool.and_false _)
  have closing : Unsplit separator ⟨.inside, depth⟩ ⟨.outside, depth⟩ ['"'] :=
    unsplit_singleton (Bool.and_false _)
  exact opening.append ((unsplit_escape separator depth content.toList).append closing)

end ViewPreview.Spelling
