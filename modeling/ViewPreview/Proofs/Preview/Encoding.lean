import ViewPreview.CommandLine.Run
import ViewPreview.Proofs.Json.ViewEncoding
import ViewPreview.Proofs.Number.Written

/-!
# Serialized Previews

The serialized text of a preview loses nothing of it: previews whose numbers are all finite have one
text only if they are the same, with all views inside them and all messages.
-/

namespace ViewPreview

open ViewPreview.Number (Layout isFinite)
open ViewPreview.Text (consists_iff consists_of_all)

theorem Number.endsInZeros_serialized : Layout.serialized.EndsInZeros :=
  ⟨1, by decide⟩

theorem Number.isNumeral_integerText (n : ℤ) : Json.IsNumeral (integerText n) := by
  refine ⟨consists_iff.mpr fun c member ↦ ?_, integerChars_eq_cons n⟩
  rcases mem_integerChars member with rfl | digit
  · decide
  · exact Style.isWordPart_of_isAsciiDigit digit

theorem Number.isNumeral_text {x : Float} (finite : isFinite x = true) :
    Json.IsNumeral (Layout.serialized.text x) := by
  obtain ⟨value, denotes⟩ := exists_denotes finite
  obtain ⟨body, text, body_denotes⟩ := exists_text_eq endsInZeros_serialized denotes
  obtain ⟨c, rest, rfl, digit⟩ := body_denotes.begins
  refine ⟨Style.worded_text (consists_of_all (by decide)) x, ?_⟩
  rw [text]
  cases value.negative with
  | true => exact ⟨'-', c :: rest, rfl, .inl rfl⟩
  | false => exact ⟨c, rest, rfl, .inr digit⟩

/-- Serialized trees tell finite numbers apart. -/
theorem NumberEncoding.isFaithful_serialized :
    NumberEncoding.serialized.IsFaithful fun x ↦ isFinite x = true := by
  have written {x : Float} (finite : isFinite x = true) :
      NumberEncoding.serialized.number x = .numeral (Layout.serialized.text x) := if_pos finite
  constructor
  · intro x y firstFinite secondFinite same
    rw [written firstFinite, written secondFinite, Json.numeral.injEq] at same
    exact Layout.text_inj Number.endsInZeros_serialized firstFinite secondFinite same
  · intro x finite
    rw [written finite]
    exact nofun
  · intro x finite
    rw [written finite]
    exact Number.isNumeral_text finite
  · intro m n same
    exact Number.integerChars_inj (congrArg String.toList (Json.numeral.inj same))
  · intro n
    exact Number.isNumeral_integerText n

/-- Previews of finite numbers have one serialized text only if they are the same. -/
theorem Preview.eq_of_write_encode {first second : Preview}
    (firstFinite : ∀ x ∈ first.numbers, isFinite x = true)
    (secondFinite : ∀ x ∈ second.numbers, isFinite x = true)
    (same : (first.encode .serialized).write = (second.encode .serialized).write) :
    first = second := by
  have faithful := NumberEncoding.isFaithful_serialized
  have firstNumerals := hasNumerals_encode faithful firstFinite
  have secondNumerals := hasNumerals_encode faithful secondFinite
  exact encode_inj faithful firstFinite secondFinite
    (Json.write_injective firstNumerals secondNumerals same)

namespace CommandLine

/-- The text that is shown of a preview as JSON loses nothing of it. -/
theorem previewText_eq_iff {invocation : Invocation} (asked : invocation.json = true)
    (options : RenderOptions) {first second : Preview}
    (firstFinite : ∀ x ∈ first.numbers, isFinite x = true)
    (secondFinite : ∀ x ∈ second.numbers, isFinite x = true) :
    previewText invocation options first = previewText invocation options second ↔
      first = second := by
  constructor
  · intro same
    rw [previewText, previewText, if_pos asked, if_pos asked] at same
    exact Preview.eq_of_write_encode firstFinite secondFinite same
  · exact congrArg (previewText invocation options)

/-- The preview of a text that is shown with some opacity. -/
def dimmed (opacity : Float) : Preview :=
  ⟨some ((View.ofText "Hello").addModifier ⟨"opacity", .number opacity⟩), []⟩

/-- Even two neighbouring numbers are told apart. -/
theorem previewText_dimmed_ne :
    previewText ⟨"Hello.swift", none, true, false, none, none, false⟩ {} (dimmed 0.1) ≠
      previewText ⟨"Hello.swift", none, true, false, none, none, false⟩ {}
        (dimmed 0.10000000000000002) := by
  have finite : ∀ opacity ∈ [(0.1 : Float), 0.10000000000000002],
      ∀ x ∈ (dimmed opacity).numbers, isFinite x = true := by decide +kernel
  have distinct : (0.1 : Float).toBits ≠ (0.10000000000000002 : Float).toBits := by decide +kernel
  intro same
  have samePreview := (previewText_eq_iff rfl {} (finite 0.1 (by simp))
    (finite 0.10000000000000002 (by simp))).mp same
  have sameNumbers : [(0.1 : Float)] = [0.10000000000000002] :=
    congrArg Preview.numbers samePreview
  exact distinct (congrArg Float.toBits (List.head_eq_of_cons_eq sameNumbers))

end CommandLine

end ViewPreview
