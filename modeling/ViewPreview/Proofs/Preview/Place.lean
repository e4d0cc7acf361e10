import Mathlib
import ViewPreview.Proofs.Outline.Message
import ViewPreview.Proofs.Passage.Report
import ViewPreview.Proofs.Preview.Skipped
import ViewPreview.Proofs.Text.Stripped

/-!
# Lines of Reports

The line in a message of a scanned source is a line of the source as it was, comments included: the
one that holds the first character of the statement that is skipped, the dot of the modifier, or the
brace of the declaration.
-/

namespace ViewPreview.Preview

open ViewPreview.Outline ViewPreview.Text
open ViewPreview.Passage (Raises Visits)

/-- What is reported when a view is shown is found at spots of the source without comments. -/
theorem exists_raises_of_fallback {source : List Char} {reading : Reading View}
    (read : (Passage.readBody source).bind Body.view = .ok reading) {caveat : Caveat}
    (member : caveat ∈ reading.caveats) :
    ∃ spot, Raises source spot caveat.problem ∧ caveat.line = spot.passage.line := by
  obtain ⟨declaration, body, found⟩ : ∃ declaration body,
      Passage.body? source = some (declaration, body) := by
    cases content : Passage.readBody source with
    | error failure =>
      rw [content] at read
      cases read
    | ok body => exact Passage.exists_body?_of_readBody content
  rw [Passage.readBody_eq found] at read
  obtain ⟨scan, after, scanned, -, caveats⟩ := Passage.exists_of_readFrom read
  rw [caveats] at member
  exact Passage.exists_raises found scanned member

/-- The line in a message of a scanned source is that of the character of the source, as it was
before comments were stripped, at which what is reported begins: the first character of a statement
that is skipped, the dot of a modifier, or the brace of a declaration that is not closed.  This
character is found behind the text that stands before the spot of the report, and wherever the
scanner looks for an expression, it looks at the stripped source from that spot on. -/
theorem lineOf_message {source : String} {line : Nat} {description : String}
    (reported : placed (some line) description ∈ (ofSource .fallback source).messages) :
    (∃ spot problem, ∃ kept : KeptCharacter source.toList,
      Raises (stripComments source.toList) spot problem ∧ description = problem.description ∧
      spot.before = keptText kept.front ∧
      spot.passage.text.head? = some kept.character ∧ problem.BeginsWith kept.character ∧
      line = lineOf source.toList kept.offset) ∧
    ∀ spot, Visits (stripComments source.toList) spot →
      spot.LiesIn (stripComments source.toList) := by
  refine ⟨?_, fun spot visits ↦ visits.liesIn⟩
  change _ ∈ (ofReading ((Passage.readBody (stripComments source.toList)).bind Body.view)).messages
    at reported
  cases read : (Passage.readBody (stripComments source.toList)).bind Body.view with
  | error failure =>
    rw [read] at reported
    exact absurd (List.mem_singleton.mp reported) (placed_ne_message line description failure)
  | ok reading =>
    rw [read] at reported
    obtain ⟨caveat, member, message⟩ := List.mem_map.mp reported
    obtain ⟨spot, raises, lineOfSpot⟩ := exists_raises_of_fallback read member
    have lies := raises.liesIn
    obtain ⟨c, text, written, begins⟩ := raises.begins
    obtain ⟨after, slice⟩ := lies.slice
    have stripped : stripComments source.toList = spot.before ++ c :: (text ++ after) := by
      rw [slice, written, List.append_assoc, List.cons_append]
    obtain ⟨kept, front, rfl⟩ := KeptCharacter.exists_of_stripComments stripped
    rw [Caveat.message, lineOfSpot, lies.line] at message
    obtain ⟨sameLine, sameDescription⟩ := placed_some_inj message
    refine ⟨spot, caveat.problem, kept, raises, sameDescription.symm, front.symm, ?_, begins, ?_⟩
    · rw [written]
      rfl
    · rw [← sameLine, ← front]
      exact (kept.lineOf_offset ⟨0, kept.character.utf8Size_pos⟩).symm

/-- A declaration that is not closed, with a comment on most of its lines. -/
def commented : String :=
  "// é\nstruct A: View \x7b // \x7b\n  var body: some View \x7b\n    VStack \x7b // stack\n" ++
    "      foo() // skipped\n    \x7d\n    // framed\n    .frame()\n  \x7d\n"

theorem lineOf_message_commented :
    (ofSource .fallback commented).messages =
      [placed (some 2) "Unbalanced braces: the declaration of 'A' is never closed",
        placed (some 5) "Skipped unsupported statement: foo()",
        placed (some 8) "Modifier '.frame' expects a width or height"] ∧
    (∃ spot problem, ∃ kept : KeptCharacter commented.toList,
      Raises (stripComments commented.toList) spot problem ∧
      "Skipped unsupported statement: foo()" = problem.description ∧
      spot.before = keptText kept.front ∧
      spot.passage.text.head? = some kept.character ∧ problem.BeginsWith kept.character ∧
      5 = lineOf commented.toList kept.offset) ∧
    ∀ spot, Visits (stripComments commented.toList) spot →
      spot.LiesIn (stripComments commented.toList) := by
  have messages : (ofSource .fallback commented).messages =
      [placed (some 2) "Unbalanced braces: the declaration of 'A' is never closed",
        placed (some 5) "Skipped unsupported statement: foo()",
        placed (some 8) "Modifier '.frame' expects a width or height"] := by
    decide +kernel
  refine ⟨messages, lineOf_message ?_⟩
  rw [messages]
  exact List.mem_cons_of_mem _ List.mem_cons_self

end ViewPreview.Preview
