import ViewPreview.Call.Nesting
import ViewPreview.Text.Line

/-!
# Passages

A passage is a part of a source text together with the line it starts on.  Reading takes something
off the start of a passage and goes on with the rest, which keeps track of its own line.  Text that
is read apart from its source has no lines.
-/

namespace ViewPreview

open ViewPreview.Text ViewPreview.Call

/-- A text with the line that it starts on. -/
structure Passage where
  line : Option Nat
  text : List Char
deriving Repr, DecidableEq

namespace Passage

/-- The number of characters in a passage. -/
def length (passage : Passage) : Nat :=
  passage.text.length

/-- The passage at a later place, given the text from there on. -/
def moveTo (passage : Passage) (rest : List Char) : Passage :=
  { line := passage.line.map fun line ↦
      line + lineFeeds (passage.text.take (passage.text.length - rest.length))
    text := rest }

@[simp] theorem length_moveTo (passage : Passage) (rest : List Char) :
    (passage.moveTo rest).length = rest.length :=
  rfl

@[simp] theorem text_moveTo (passage : Passage) (rest : List Char) :
    (passage.moveTo rest).text = rest :=
  rfl

/-- The passage after the characters it begins with that satisfy a condition. -/
def skipWhile (condition : Char → Bool) (passage : Passage) : Passage :=
  passage.moveTo (passage.text.dropWhile condition)

/-- The passage after its leading ASCII blanks. -/
def skipBlanks (passage : Passage) : Passage :=
  passage.skipWhile isAsciiBlank

/-- The passage after its leading spaces and tabs. -/
def skipInlineBlanks (passage : Passage) : Passage :=
  passage.skipWhile isInlineBlank

/-- Split a block off the start of a passage: what stands between the opening bracket and the one
that closes it, and what follows. -/
def block? (opening closing : Char) (passage : Passage) : Option (Passage × Passage) :=
  match passage.text with
  | [] => none
  | c :: text =>
    if c = opening then
      (splitClosing? opening closing 0 text).map fun parts ↦
        (⟨(passage.moveTo text).line, parts.1⟩, passage.moveTo parts.2)
    else none

/-- Split a block in braces off the start of a passage, spaces and tabs before it apart. -/
def trailingBlock? (passage : Passage) : Option (Passage × Passage) :=
  passage.skipInlineBlanks.block? '{' '}'

/-- Repeat a step as long as it gets further, collecting what it finds. -/
def repeatStep {α : Type} (step : Passage → Option (α × Passage)) (passage : Passage) :
    List α × Passage :=
  match step passage with
  | none => ([], passage)
  | some (found, rest) =>
    if rest.length < passage.length then
      let others := repeatStep step rest
      (found :: others.1, others.2)
    else ([found], rest)
termination_by passage.length

/-! ## Lengths -/

theorem length_skipWhile_le (condition : Char → Bool) (passage : Passage) :
    (passage.skipWhile condition).length ≤ passage.length := by
  exact (List.dropWhile_suffix condition).length_le

theorem length_splitClosing {opening closing : Char} {depth : Nat} {text inner rest : List Char}
    (split : splitClosing? opening closing depth text = some (inner, rest)) :
    inner.length + rest.length + 1 = text.length := by
  induction text generalizing depth inner rest with
  | nil => simp [splitClosing?] at split
  | cons c text ih =>
    unfold splitClosing? at split
    split at split
    · obtain ⟨⟨left, right⟩, found, same⟩ := Option.map_eq_some_iff.mp split
      have := ih found
      cases same
      simp only [List.length_cons, id_eq]
      omega
    · split at split
      · split at split
        · cases split
          simp
        · obtain ⟨⟨left, right⟩, found, same⟩ := Option.map_eq_some_iff.mp split
          have := ih found
          cases same
          simp only [List.length_cons, id_eq]
          omega
      · obtain ⟨⟨left, right⟩, found, same⟩ := Option.map_eq_some_iff.mp split
        have := ih found
        cases same
        simp only [List.length_cons, id_eq]
        omega

theorem length_block {opening closing : Char} {passage inner rest : Passage}
    (split : passage.block? opening closing = some (inner, rest)) :
    inner.length + rest.length + 2 = passage.length := by
  unfold block? at split
  split at split
  · cases split
  · next c text heq =>
    split at split
    · obtain ⟨⟨left, right⟩, found, same⟩ := Option.map_eq_some_iff.mp split
      have := length_splitClosing found
      cases same
      simp only [length, text_moveTo, heq, List.length_cons]
      omega
    · cases split

theorem length_trailingBlock {passage inner rest : Passage}
    (split : passage.trailingBlock? = some (inner, rest)) :
    inner.length + rest.length + 2 ≤ passage.length := by
  have := length_block split
  have := length_skipWhile_le isInlineBlank passage
  unfold skipInlineBlanks at *
  omega

end Passage

end ViewPreview
