import Mathlib.Data.List.TakeWhile
import ViewPreview.Outline.Caveat
import ViewPreview.Proofs.Number.Integer
import ViewPreview.Proofs.Text.Span

/-!
# Lines of Messages

The message of a problem with a line begins with that line and its description follows, so that both
can be told from the message.  No failure has a message of this form.
-/

namespace ViewPreview.Outline

open ViewPreview.Text

theorem toList_placed (line : Nat) (description : String) :
    (placed (some line) description).toList =
      "line ".toList ++ (Number.digitsOf line ++ (": ".toList ++ description.toList)) := by
  have digits : (Number.integerText line).toList = Number.digitsOf line :=
    Number.integerChars_ofNat line
  rw [placed, String.toList_append, String.toList_append, String.toList_append, digits,
    List.append_assoc, List.append_assoc]

/-- A message tells the line and the description of a problem. -/
theorem placed_some_inj {line other : Nat} {description second : String}
    (same : placed (some line) description = placed (some other) second) :
    line = other ∧ description = second := by
  have noDigit : isAsciiDigit ':' = false := by decide
  have digits (number : Nat) (rest : List Char) :
      (Number.digitsOf number ++ ':' :: rest).takeWhile isAsciiDigit = Number.digitsOf number := by
    rw [takeWhile_append_cons noDigit, List.takeWhile_eq_self_iff]
    exact fun c member ↦ Number.isAsciiDigit_of_mem_digitsOf member
  have texts := congrArg String.toList same
  rw [toList_placed, toList_placed] at texts
  have behind := List.append_cancel_left texts
  have sameDigits := congrArg (List.takeWhile isAsciiDigit) behind
  change (Number.digitsOf line ++ ':' :: (' ' :: description.toList)).takeWhile isAsciiDigit =
    (Number.digitsOf other ++ ':' :: (' ' :: second.toList)).takeWhile isAsciiDigit at sameDigits
  rw [digits, digits] at sameDigits
  rw [sameDigits] at behind
  have values := congrArg Number.digitsValue? sameDigits
  rw [Number.digitsValue?_digitsOf, Number.digitsValue?_digitsOf] at values
  exact ⟨Option.some.inj values, String.toList_inj.mp
    (List.append_cancel_left (List.append_cancel_left behind))⟩

/-- A message tells the line of a problem. -/
theorem placed_inj {line other : Option Nat} {description : String}
    (same : placed line description = placed other description) : line = other := by
  have longer (place : Nat) : placed (some place) description ≠ placed none description := by
    intro short
    have texts : (placed (some place) description).toList = description.toList :=
      congrArg String.toList short
    rw [toList_placed] at texts
    have lengths := congrArg List.length texts
    have five : "line ".toList.length = 5 := rfl
    rw [List.length_append, List.length_append, List.length_append, five] at lengths
    omega
  cases line with
  | none =>
    cases other with
    | none => rfl
    | some place => exact absurd same.symm (longer place)
  | some place =>
    cases other with
    | none => exact absurd same (longer place)
    | some second => exact congrArg some (placed_some_inj same).1

theorem head?_message_ne (failure : Failure) : failure.message.toList.head? ≠ some 'l' := by
  delta Failure.message
  cases failure with
  | noViewDeclaration => decide +kernel
  | noBodyProperty view =>
    dsimp only
    rw [String.toList_append, String.toList_append]
    exact ne_of_beq_false rfl
  | emptyBody view =>
    dsimp only
    rw [String.toList_append, String.toList_append]
    exact ne_of_beq_false rfl
  | unsupportedBody quotation =>
    dsimp only
    rw [String.toList_append]
    exact ne_of_beq_false rfl

/-- A failure is not reported of a line. -/
theorem placed_ne_message (line : Nat) (description : String) (failure : Failure) :
    placed (some line) description ≠ failure.message := by
  have first : (placed (some line) description).toList.head? = some 'l' := by
    rw [toList_placed]
    rfl
  intro same
  rw [same] at first
  exact head?_message_ne failure first

end ViewPreview.Outline
