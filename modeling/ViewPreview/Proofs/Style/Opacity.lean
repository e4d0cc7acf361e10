import ViewPreview.Proofs.Number.Thousandths
import ViewPreview.Style.Palette

/-!
# Colors with an Opacity

An opacity that is written as the fourth channel of a color is clamped first, so that every finite
number is shown between zero and one.  An opacity that is mixed into a color is multiplied by a
hundred and written as it comes out.  Its percentage, to three places, is between zero and a hundred
for the opacities between two bounds, which lie a little outside zero and one; past them it is not.
Within them both texts show the opacity clamped.

The bounds are found by evaluating the products of the two numbers next to each of them, as the
products of all other numbers lie below or above.
-/

namespace ViewPreview.Style

open ViewPreview.Number

/-! ## Products -/

theorem denotation_hundred : denotation 100.0 = .finite (.scaled false (100 * 2 ^ 46) (-46)) := by
  decide

theorem size_hundred : (Binary.scaled false (100 * 2 ^ 46) (-46)).size = 100 := by
  norm_num [Binary.size, Binary.place, Binary.scaled]

/-- Whether a binary number is the product of an opacity, a hundred and a thousand, where both
products are rounded. -/
def Scales (opacity product : Binary) : Prop :=
  ∃ percent : Binary, percent.Rounds (opacity.size * 100) ∧ percent.IsCanonical ∧
    product.Rounds (percent.size * 1000) ∧ product.IsCanonical

section Scales

variable {a p : Binary}

theorem scales_of_denotes {alpha : Float} {percent : Binary} (first : denotation alpha = .finite a)
    (second : denotation (alpha * 100.0) = .finite percent)
    (third : denotation (alpha * 100.0 * 1000.0) = .finite p) : Scales a p := by
  have rounds := (isRounded_mul first denotation_hundred).rounds second
  have rounds' := (isRounded_mul second denotation_thousand).rounds third
  rw [size_hundred] at rounds
  rw [size_thousand] at rounds'
  exact ⟨percent, rounds, isCanonical_of_denotes second, rounds', isCanonical_of_denotes third⟩

theorem Scales.size_le {b q : Binary} (first : Scales a p) (second : Scales b q)
    (le : a.size ≤ b.size) : p.size ≤ q.size := by
  obtain ⟨percent, rounds, canonical, rounds', canonical'⟩ := first
  obtain ⟨other, others, isCanonical, others', isCanonical'⟩ := second
  have percents := Binary.size_le_of_rounds canonical isCanonical rounds others (by linarith)
  exact Binary.size_le_of_rounds canonical' isCanonical' rounds' others' (by linarith)

/-- A bound of products is a bound of opacities, if both lie between two neighbours and between the
products of these. -/
theorem Scales.size_lt_iff {below above low high : Binary} {bound limit : ℚ}
    (first : Scales below low) (second : Scales above high) (isCanonical : below.IsCanonical)
    (next : above.size = (below.mantissa + 1) * below.place)
    (between : below.size < limit ∧ limit ≤ above.size)
    (within : low.size < bound ∧ bound ≤ high.size) (canonical : a.IsCanonical)
    (scales : Scales a p) : p.size < bound ↔ a.size < limit := by
  have above_le (greater : below.size < a.size) : above.size ≤ a.size :=
    next ▸ Binary.next_le_of_size_lt isCanonical canonical greater
  constructor
  · intro less
    by_contra greater
    have := second.size_le scales (above_le (between.1.trans_le (not_lt.mp greater)))
    linarith
  · intro less
    have atMost : a.size ≤ below.size := by
      by_contra greater
      have := above_le (not_le.mp greater)
      linarith
    have := scales.size_le first atMost
    linarith

/-- The numbers next to the upper bound are `1.0000049999999998` and `1.000005`. -/
theorem size_lt_top_iff (canonical : a.IsCanonical) (scales : Scales a p) :
    p.size < 100000 + 1 / 2 ↔ a.size < 1000005 / 1000000 := by
  have below : denotation 1.0000049999999998 =
      .finite (.scaled false 4503622145368632 (-52)) := by decide
  have above : denotation 1.000005 = .finite (.scaled false 4503622145368633 (-52)) := by decide
  have low : denotation (1.0000049999999998 * 100.0 * 1000.0) =
      .finite (.scaled false 6871982033338367 (-36)) := by decide
  have high : denotation (1.000005 * 100.0 * 1000.0) =
      .finite (.scaled false 6871982033338368 (-36)) := by decide
  refine (scales_of_denotes below rfl low).size_lt_iff (scales_of_denotes above rfl high)
    (isCanonical_of_denotes below) ?_ ⟨?_, ?_⟩ ⟨?_, ?_⟩ canonical scales
  all_goals norm_num [Binary.size, Binary.place, Binary.scaled]

/-- The number next above the lower bound is still less than `0.000005`, but its product is rounded
up to a half. -/
theorem size_lt_bottom_iff (canonical : a.IsCanonical) (scales : Scales a p) :
    p.size < 1 / 2 ↔ a.size < 4999999999999999 / 10 ^ 21 := by
  have below : denotation 0.000004999999999999999 =
      .finite (.scaled false 5902958103587055 (-70)) := by decide
  have above : denotation 0.0000049999999999999996 =
      .finite (.scaled false 5902958103587056 (-70)) := by decide
  have low : denotation (0.000004999999999999999 * 100.0 * 1000.0) =
      .finite (.scaled false 9007199254740990 (-54)) := by decide
  have high : denotation (0.0000049999999999999996 * 100.0 * 1000.0) =
      .finite (.scaled false 4503599627370496 (-53)) := by decide
  refine (scales_of_denotes below rfl low).size_lt_iff (scales_of_denotes above rfl high)
    (isCanonical_of_denotes below) ?_ ⟨?_, ?_⟩ ⟨?_, ?_⟩ canonical scales
  all_goals norm_num [Binary.size, Binary.place, Binary.scaled]

end Scales

/-! ## Clamped opacities -/

/-- Whether a text shows, to three places, the part of a whole that an opacity stands for when it is
clamped. -/
def ShowsOpacity (text : String) (whole opacity : ℚ) : Prop :=
  ∃ shown, Shows text shown ∧ 0 ≤ shown ∧ shown ≤ whole ∧
    |shown - whole * max 0 (min 1 opacity)| ≤ 1 / 2000 + 1 / 10 ^ 12

/-- A part of a whole is no further from the clamped opacity than from the opacity. -/
theorem abs_sub_clamped_le {shown whole opacity : ℚ} (positive : 0 < whole) (nonneg : 0 ≤ shown)
    (le : shown ≤ whole) :
    |shown - whole * max 0 (min 1 opacity)| ≤ |shown - whole * opacity| := by
  rcases le_total opacity 0 with negative | nonnegative
  · have small : whole * opacity ≤ 0 := mul_nonpos_of_nonneg_of_nonpos positive.le negative
    rw [max_eq_left ((min_le_right _ _).trans negative), mul_zero, sub_zero, abs_of_nonneg nonneg,
      abs_of_nonneg (by linarith)]
    linarith
  rcases le_total opacity 1 with low | high
  · rw [min_eq_right low, max_eq_right nonnegative]
  · have large : whole * 1 ≤ whole * opacity := mul_le_mul_of_nonneg_left high positive.le
    rw [min_eq_left high, max_eq_right zero_le_one, abs_of_nonpos (by linarith),
      abs_of_nonpos (by linarith)]
    linarith

theorem showsOpacity_styleText {x : Float} {a : Binary} (denotes : denotation x = .finite a)
    {opacity : ℚ} (clamped : a.signed = max 0 (min 1 opacity)) :
    ShowsOpacity (styleText x) 1 opacity := by
  have nonneg : 0 ≤ a.signed := clamped ▸ le_max_left _ _
  have le : a.signed ≤ 1 := clamped ▸ max_le zero_le_one (min_le_left _ _)
  have size : a.size = a.signed := a.abs_signed ▸ abs_of_nonneg nonneg
  rcases styleText_cases denotes with ⟨thousandths, shows⟩ | ⟨large, -⟩
  · have near := thousandths.abs_shown_sub_le (by linarith)
    have product := Binary.size_le_of_rounds thousandths.product_canonical
      (isCanonical_of_denotes denotation_thousand) thousandths.rounds_product
      (Binary.rounds_size _) (by rw [size_thousand]; linarith)
    rw [size_thousand] at product
    have atMost : thousandths.shown ≤ 1 := by
      rw [thousandths.shown_le_one_iff, thousandths.count_le_iff]
      push_cast
      linarith
    -- the sign of a negative zero is not shown
    have unsigned : (if a.negative then -thousandths.shown else thousandths.shown) =
        thousandths.shown := by
      split
      · next negative =>
        have none : a.size = 0 := by
          have := a.size_nonneg
          rw [Binary.signed, if_pos negative] at size
          linarith
        rw [thousandths.shown_of_zero none, neg_zero]
      · rfl
    rw [unsigned] at shows
    refine ⟨thousandths.shown, shows, thousandths.shown_nonneg, atMost, ?_⟩
    rw [one_mul, ← clamped, ← size]
    linarith
  · linarith

/-! ## Percentages -/

/-- The percentage of an opacity is shown to three places, unless it is too great to be
multiplied. -/
theorem percent_cases {alpha : Float} {a : Binary} (denotes : denotation alpha = .finite a) :
    (∃ (percent : Binary) (thousandths : Thousandths percent.size),
      percent.Rounds (a.size * 100) ∧ percent.IsCanonical ∧
      Shows (styleText (alpha * 100.0))
        (if a.negative then -thousandths.shown else thousandths.shown)) ∨
      (10 ^ 9 < a.size ∧ ∀ q, ¬ Shows (styleText (alpha * 100.0)) q) := by
  obtain ⟨percent, canonical, sign, rounds, multiplied⟩ := isRounded_mul denotes denotation_hundred
  rw [size_hundred] at rounds
  have sameSign : percent.negative = a.negative := by
    rw [sign]
    cases a.negative <;> rfl
  have bounded (less : ¬ 10 ^ 9 < a.size) :
      percent.size ≤ (10 ^ 11 : ℕ) ∧ percent.exponent ≤ 971 :=
    size_le_natural canonical rounds (by decide) (by push_cast; linarith)
  rw [Binary.denoted] at multiplied
  split at multiplied
  · rcases styleText_cases multiplied with ⟨thousandths, shows⟩ | ⟨large, unshown⟩
    · exact .inl ⟨percent, thousandths, rounds, canonical, sameSign ▸ shows⟩
    · refine .inr ⟨?_, unshown⟩
      by_contra less
      have := (bounded less).1
      push_cast at this
      linarith
  · next large =>
    right
    refine ⟨?_, ?_⟩
    · by_contra less
      exact large (bounded less).2
    · rw [styleText_of_infinite (infinite_mul multiplied denotation_thousand (by decide))]
      exact not_shows_infinite _

/-- The opacities whose percentage, to three places, is between zero and a hundred. -/
def FitsPercent (opacity : ℚ) : Prop :=
  -(4999999999999999 / 10 ^ 21) < opacity ∧ opacity < 1000005 / 1000000

section Percent

variable {a percent : Binary}

theorem FitsPercent.size_le (fits : FitsPercent a.signed) : a.size ≤ 1000005 / 1000000 := by
  obtain ⟨above, below⟩ := fits
  rw [← a.abs_signed, abs_le]
  constructor <;> linarith

variable (canonical : a.IsCanonical) (isCanonical : percent.IsCanonical)
  (rounds : percent.Rounds (a.size * 100)) (thousandths : Thousandths percent.size)

include canonical isCanonical rounds

/-- A percentage is within its bounds for the opacities within theirs: of a negative one nothing
may be counted, of another one up to a hundred thousand thousandths. -/
theorem shown_between_iff {shown : ℚ}
    (same : shown = if a.negative then -thousandths.shown else thousandths.shown) :
    0 ≤ shown ∧ shown ≤ 100 ↔ FitsPercent a.signed := by
  have scales : Scales a thousandths.product :=
    ⟨percent, rounds, isCanonical, thousandths.rounds_product, thousandths.product_canonical⟩
  have nonneg := thousandths.shown_nonneg
  have size := a.size_nonneg
  rw [same, FitsPercent, Binary.signed]
  split
  · have bottom : 0 ≤ -thousandths.shown ↔ a.size < 4999999999999999 / 10 ^ 21 := by
      have counted := thousandths.count_le_iff 0
      rw [Nat.cast_zero, zero_add] at counted
      rw [← size_lt_bottom_iff canonical scales, ← counted, Nat.le_zero,
        ← thousandths.shown_eq_zero_iff, neg_nonneg]
      exact ⟨fun le ↦ le.antisymm nonneg, le_of_eq⟩
    rw [bottom, neg_lt_neg_iff]
    exact ⟨fun within ↦ ⟨within.1, by linarith⟩, fun within ↦ ⟨within.1, by linarith⟩⟩
  · have top : thousandths.shown ≤ 100 ↔ a.size < 1000005 / 1000000 := by
      have counted := thousandths.count_le_iff 100000
      push_cast at counted
      rw [thousandths.shown_le_hundred_iff, counted, size_lt_top_iff canonical scales]
    rw [top]
    exact ⟨fun within ↦ ⟨by linarith, within.2⟩, fun within ↦ ⟨nonneg, within.2⟩⟩

omit canonical in
theorem abs_shown_sub_percent_le (fits : FitsPercent a.signed) :
    |(if a.negative then -thousandths.shown else thousandths.shown) - 100 * a.signed| ≤
      1 / 2000 + 1 / 10 ^ 12 := by
  have size := fits.size_le
  have least := (size_le_natural isCanonical rounds (n := 101) (by decide)
    (by push_cast; linarith)).1
  push_cast at least
  have near := thousandths.abs_shown_sub_le least
  have product := abs_sub_le_of_rounds isCanonical (-45) (by decide) rounds percent.rounds_size
    (by norm_num; linarith)
  norm_num only [abs_le] at near product ⊢
  rw [Binary.signed]
  split
  · constructor <;> linarith
  · constructor <;> linarith

end Percent

/-! ## Colors -/

/-- With any finite opacity a color of three channels shows the opacity clamped, a transparent color
stays as it is, and every other color shows a percentage that is the one of the clamped opacity
exactly when the opacity fits. -/
theorem colorWithOpacity_clamped_iff (name : String) {alpha : Float} {opacity : Binary}
    (denotes : denotation alpha = .finite opacity) :
    (∀ red green blue, channels? (color name) = some (red, green, blue) →
      ∃ text, colorWithOpacity name (some alpha) = "rgba(" ++ natText red ++ ", " ++
          natText green ++ ", " ++ natText blue ++ ", " ++ text ++ ")" ∧
        ShowsOpacity text 1 opacity.signed) ∧
    (color name = "transparent" → colorWithOpacity name (some alpha) = "transparent") ∧
    (channels? (color name) = none → color name ≠ "transparent" →
      ∃ text, colorWithOpacity name (some alpha) =
          "color-mix(in srgb, " ++ color name ++ " " ++ text ++ "%, transparent)" ∧
        ((∃ shown, Shows text shown ∧ 0 ≤ shown ∧ shown ≤ 100) ↔ FitsPercent opacity.signed) ∧
        (FitsPercent opacity.signed → ShowsOpacity text 100 opacity.signed)) := by
  refine ⟨fun red green blue channels ↦ ?_, fun clear ↦ ?_, fun channels colored ↦ ?_⟩
  · have zero : (Binary.scaled false 0 (-1074)).signed = 0 := Binary.size_of_zero rfl
    have one : (Binary.scaled false (2 ^ 52) (-52)).signed = 1 := by
      norm_num [Binary.signed, Binary.size, Binary.place, Binary.scaled]
    obtain ⟨value, clamped, signed⟩ := exists_clamp denotes denotation_zero
      (by decide : denotation 1.0 = .finite (.scaled false (2 ^ 52) (-52))) (by linarith)
    rw [zero, one] at signed
    refine ⟨styleText (clamp alpha 0.0 1.0), ?_, showsOpacity_styleText clamped signed⟩
    unfold colorWithOpacity
    simp only [channels]
  · have none : channels? "transparent" = none := rfl
    unfold colorWithOpacity
    simp only [clear, none, if_true]
  · refine ⟨styleText (alpha * 100.0), ?_, ?_⟩
    · unfold colorWithOpacity
      simp only [channels, colored, if_false]
    rcases percent_cases denotes with ⟨percent, thousandths, rounds, isCanonical, shows⟩ |
      ⟨large, unshown⟩
    · have between := shown_between_iff (isCanonical_of_denotes denotes) isCanonical rounds
        thousandths rfl
      constructor
      · rw [← between]
        constructor
        · rintro ⟨shown, others, within⟩
          rwa [others.unique shows] at within
        · intro within
          exact ⟨_, shows, within⟩
      · intro fits
        obtain ⟨nonneg, le⟩ := between.mpr fits
        exact ⟨_, shows, nonneg, le, (abs_sub_clamped_le (by norm_num) nonneg le).trans
          (abs_shown_sub_percent_le isCanonical rounds thousandths fits)⟩
    · have outside : ¬ FitsPercent opacity.signed := by
        intro fits
        have := fits.size_le
        linarith
      refine ⟨⟨?_, fun fits ↦ absurd fits outside⟩, fun fits ↦ absurd fits outside⟩
      rintro ⟨shown, shows, -⟩
      exact absurd shows (unshown shown)

/-- An opacity of one and a half is no percentage of the current color. -/
theorem colorWithOpacity_clamped_iff_current :
    denotation 1.5 = .finite (.scaled false (3 * 2 ^ 51) (-52)) ∧
    ∃ text, colorWithOpacity "someVar" (some 1.5) =
        "color-mix(in srgb, " ++ "currentColor" ++ " " ++ text ++ "%, transparent)" ∧
      ¬ ∃ shown, Shows text shown ∧ 0 ≤ shown ∧ shown ≤ 100 := by
  have denotes : denotation 1.5 = .finite (.scaled false (3 * 2 ^ 51) (-52)) := by decide
  have current : color "someVar" = "currentColor" := by decide
  obtain ⟨text, written, within, -⟩ := (colorWithOpacity_clamped_iff "someVar" denotes).2.2
    (current ▸ by decide) (current ▸ by decide)
  refine ⟨denotes, text, current ▸ written, fun shown ↦ ?_⟩
  have large : ¬ FitsPercent (Binary.scaled false (3 * 2 ^ 51) (-52)).signed := by
    norm_num [FitsPercent, Binary.signed, Binary.size, Binary.place, Binary.scaled]
  exact large (within.mp shown)

/-- The percentage of an opacity of one and a half. -/
theorem current_mixed_past_whole : colorWithOpacity "someVar" (some 1.5) =
    "color-mix(in srgb, currentColor 150%, transparent)" := by
  decide +kernel

end ViewPreview.Style
