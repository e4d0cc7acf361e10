import ViewPreview.Proofs.Style.Reading
import ViewPreview.Style.ModifierStyle
import Mathlib.Algebra.Group.Nat.Even
import Mathlib.Data.List.Induction

/-!
# What a Style Declares

The style of a view is the declarations of its kind, those of its modifiers in chain order, and one
declaration of all filters in effect.  Reading the style gives back these declarations, in this
order, exactly when no font family that is followed by another declaration ends in an escape: every
other value is closed, whatever texts the view holds, but a family is only stripped of its quotes,
so that an odd number of backslashes at its end takes the quote behind it into the string.
-/

namespace ViewPreview.Style

open InlineStyle (pixels)
open ViewPreview.Number (styleText)
open ViewPreview.Text

/-! ## Settled declarations -/

/-- A property and a value that are read back wherever they stand. -/
structure Settled (entry : String × String) : Prop where
  property : Worded entry.1
  begins : Begins entry.2
  closed : Closed entry.2

section Settled

variable {property : List Char} {value : String} {entry : String × String}

theorem settled_of_plain (named : property.all isWordPart = true) (begins : Begins value)
    (plain : Plain value) : Settled (String.ofList property, value) where
  property := consists_of_all named
  begins := begins
  closed := closed_of_plain plain

/-- A declaration that is written out. -/
theorem settled_constant {c : Char} {value : List Char} (named : property.all isWordPart = true)
    (visible : isBlank c = false) (plain : (c :: value).all isPlain = true) :
    Settled (String.ofList property, String.ofList (c :: value)) :=
  settled_of_plain named (begins_cons visible) (consists_of_all plain)

theorem begins_pixels (length : Float) : Begins (pixels length) :=
  begins_append (begins_styleText length)

theorem plain_pixels (length : Float) : Plain (pixels length) :=
  plain_of_worded (worded_pixels length)

theorem plain_styleText (x : Float) : Plain (styleText x) :=
  plain_of_worded (worded_styleText x)

theorem plain_natText (n : Nat) : Plain (natText n) :=
  plain_of_worded (worded_natText n)

theorem settled_pixels (named : property.all isWordPart = true) (length : Float) :
    Settled (String.ofList property, pixels length) :=
  settled_of_plain named (begins_pixels length) (plain_pixels length)

theorem settled_number (named : property.all isWordPart = true) (x : Float) :
    Settled (String.ofList property, styleText x) :=
  settled_of_plain named (begins_styleText x) (plain_styleText x)

theorem settled_natural (named : property.all isWordPart = true) (n : Nat) :
    Settled (String.ofList property, natText n) :=
  settled_of_plain named (begins_natText n) (plain_natText n)

theorem settled_paint (named : property.all isWordPart = true) (value : Paint) :
    Settled (String.ofList property, paint value) :=
  settled_of_plain named (begins_paint value) (plain_paint value)

theorem settled_cons {others : List (String × String)} (first : Settled entry)
    (settled : ∀ other ∈ others, Settled other) : ∀ other ∈ entry :: others, Settled other :=
  List.forall_mem_cons.mpr ⟨first, settled⟩

theorem settled_one (settled : Settled entry) : ∀ other ∈ [entry], Settled other :=
  settled_cons settled (List.forall_mem_nil _)

theorem settled_append {first second : List (String × String)}
    (settledFirst : ∀ entry ∈ first, Settled entry)
    (settledSecond : ∀ entry ∈ second, Settled entry) : ∀ entry ∈ first ++ second, Settled entry :=
  List.forall_mem_append.mpr ⟨settledFirst, settledSecond⟩

theorem settled_of_ite {condition : Prop} [Decidable condition]
    {first second : List (String × String)} (settledFirst : ∀ entry ∈ first, Settled entry)
    (settledSecond : ∀ entry ∈ second, Settled entry) :
    ∀ entry ∈ (if condition then first else second), Settled entry := by
  split
  · exact settledFirst
  · exact settledSecond

end Settled

/-! ### Kinds -/

theorem settled_gap (gap : Float) : ∀ entry ∈ [("gap", pixels gap)], Settled entry :=
  settled_one (settled_pixels (by decide) gap)

theorem settled_column : ∀ entry ∈ flexible "column", Settled entry :=
  settled_cons (settled_constant (by decide) rfl (by decide))
    (settled_one (settled_constant (by decide) rfl (by decide)))

theorem settled_row : ∀ entry ∈ flexible "row", Settled entry :=
  settled_cons (settled_constant (by decide) rfl (by decide))
    (settled_one (settled_constant (by decide) rfl (by decide)))

/-- The place of a stack's children, and the gap between them. -/
theorem settled_stack {direction : String} (settled : ∀ entry ∈ flexible direction, Settled entry)
    (alignment : Option String) (gap : Float) :
    ∀ entry ∈ stack direction alignment gap, Settled entry := by
  refine settled_append settled (settled_cons ?_ (settled_gap gap))
  cases stackPlace alignment with
  | start => exact settled_constant (by decide) rfl (by decide)
  | center => exact settled_constant (by decide) rfl (by decide)
  | finish => exact settled_constant (by decide) rfl (by decide)

theorem settled_scrolling (horizontal : Bool) (gap : Float) :
    ∀ entry ∈ scrolling horizontal gap, Settled entry := by
  cases horizontal with
  | true =>
    exact settled_append settled_row
      (settled_cons (settled_constant (by decide) rfl (by decide)) (settled_gap gap))
  | false =>
    exact settled_append settled_column
      (settled_cons (settled_constant (by decide) rfl (by decide)) (settled_gap gap))

theorem settled_spacer (minLength : Option Float) (defaultSpacing : Float) :
    ∀ entry ∈ spacer minLength defaultSpacing, Settled entry := by
  refine settled_cons (settled_constant (by decide) rfl (by decide)) ?_
  cases minLength with
  | none => exact settled_one (settled_pixels (by decide) _)
  | some length =>
    exact settled_cons (settled_pixels (by decide) _) (settled_one (settled_pixels (by decide) _))

theorem settled_outline (kind : Kind) (cornerRadius : Option Float) :
    ∀ entry ∈ outline kind cornerRadius, Settled entry := by
  unfold outline
  split
  · exact settled_cons (settled_constant (by decide) rfl (by decide))
      (settled_one (settled_constant (by decide) rfl (by decide)))
  · exact settled_one (settled_constant (by decide) rfl (by decide))
  · exact settled_one (settled_constant (by decide) rfl (by decide))
  · exact settled_one (settled_pixels (by decide) _)
  · exact List.forall_mem_nil _

/-- A shape or a gradient grows to the room there is. -/
theorem settled_growing {others : List (String × String)}
    (settled : ∀ entry ∈ others, Settled entry) :
    ∀ entry ∈ ("flex", "1 1 auto") :: ("align-self", "stretch") :: others, Settled entry :=
  settled_cons (settled_constant (by decide) rfl (by decide))
    (settled_cons (settled_constant (by decide) rfl (by decide)) settled)

theorem begins_cellPlace (token : Option String) : Begins (cellPlace token) := by
  refine begins_append (begins_append ?_)
  cases verticalPlace token with
  | start => exact begins_cons rfl
  | center => exact begins_cons rfl
  | finish => exact begins_cons rfl

/-- Everything that a kind declares is settled, whatever the properties of the view are. -/
theorem settled_kindDeclarations (view : View) (options : RenderOptions) :
    ∀ entry ∈ kindDeclarations view options, Settled entry := by
  unfold kindDeclarations
  dsimp only
  split
  case h_1 | h_2 => exact settled_stack settled_column _ _
  case h_3 | h_4 | h_5 => exact settled_stack settled_row _ _
  case h_6 => exact settled_append settled_column (settled_gap _)
  case h_7 =>
    exact settled_cons (settled_constant (by decide) rfl (by decide))
      (settled_one (settled_of_plain (by decide) (begins_cellPlace _) (plain_cellPlace _)))
  case h_8 => exact settled_scrolling _ _
  case h_9 => exact settled_spacer _ _
  case h_10 | h_11 =>
    exact settled_of_ite (settled_one (settled_constant (by decide) rfl (by decide)))
      (settled_append settled_column (settled_gap _))
  case h_12 => exact settled_one (settled_constant (by decide) rfl (by decide))
  case h_13 | h_14 | h_15 | h_16 | h_17 =>
    exact settled_append
      (settled_cons (settled_constant (by decide) rfl (by decide)) (settled_growing
        (settled_cons (settled_pixels (by decide) _) (settled_one (settled_pixels (by decide) _)))))
      (settled_outline _ _)
  case h_18 =>
    exact settled_cons (settled_paint (by decide) (.linearGradient _ _ _))
      (settled_growing (settled_one (settled_pixels (by decide) _)))
  case h_19 =>
    exact settled_cons (settled_paint (by decide) (.radialGradient _))
      (settled_growing (settled_one (settled_pixels (by decide) _)))
  case h_20 =>
    exact settled_append settled_column
      (settled_cons (settled_constant (by decide) rfl (by decide))
        (settled_one (settled_constant (by decide) rfl (by decide))))
  case h_21 => exact List.forall_mem_nil _

/-! ### Modifiers -/

theorem settled_whenOn {arguments : ModifierArguments View} {declarations : List (String × String)}
    (settled : ∀ entry ∈ declarations, Settled entry) :
    ∀ entry ∈ whenOn arguments declarations, Settled entry :=
  settled_of_ite settled (List.forall_mem_nil _)

theorem settled_paddingDeclarations (padding : Padding) (options : RenderOptions) :
    ∀ entry ∈ paddingDeclarations padding options, Settled entry := by
  intro entry member
  obtain ⟨property, inProperties, rfl⟩ := List.mem_map.mp member
  obtain ⟨edge, -, ofEdge⟩ := List.mem_flatMap.mp inProperties
  have named : ∀ edge : Edge, ∀ property ∈ paddingProperties edge,
      property.toList.all isWordPart = true := by
    intro edge
    cases edge
    all_goals decide
  rw [← String.ofList_toList (s := property)]
  exact settled_pixels (named edge property ofEdge) _

theorem settled_foreground (kind : Kind) (value : Paint) :
    ∀ entry ∈ foreground kind value, Settled entry := by
  refine settled_of_ite (settled_one (settled_paint (by decide) value)) ?_
  have gradient (value : Paint) : ∀ entry ∈ [("background", paint value),
      ("-webkit-background-clip", "text"), ("background-clip", "text"), ("color", "transparent")],
      Settled entry :=
    settled_cons (settled_paint (by decide) value)
      (settled_cons (settled_constant (by decide) rfl (by decide))
        (settled_cons (settled_constant (by decide) rfl (by decide))
          (settled_one (settled_constant (by decide) rfl (by decide)))))
  cases value with
  | linearGradient colors start finish => exact gradient _
  | radialGradient colors => exact gradient _
  | color name opacity => exact settled_one (settled_paint (by decide) _)
  | material name => exact settled_one (settled_paint (by decide) _)

theorem settled_background (value : Paint) : ∀ entry ∈ background value, Settled entry := by
  refine settled_cons (settled_paint (by decide) value) ?_
  cases value with
  | material name =>
    have begins : Begins ("blur(" ++ natText (material name).2 ++ "px)") :=
      begins_append (begins_append (begins_cons rfl))
    have plain : Plain ("blur(" ++ natText (material name).2 ++ "px)") := by
      simp only [Plain, consists_append, plain_natText, and_true]
      exact ⟨consists_of_all (by decide), consists_of_all (by decide)⟩
    exact settled_cons (settled_of_plain (by decide) begins plain)
      (settled_one (settled_of_plain (by decide) begins plain))
  | linearGradient colors start finish => exact List.forall_mem_nil _
  | radialGradient colors => exact List.forall_mem_nil _
  | color name opacity => exact List.forall_mem_nil _

theorem settled_line (stroke : Stroke) : Settled (line stroke) := by
  refine settled_of_plain (by decide) (begins_append (begins_append (begins_styleText _))) ?_
  simp only [Plain, consists_append, plain_styleText, true_and]
  refine ⟨consists_of_all (by decide), ?_⟩
  cases stroke.paint with
  | none => exact consists_of_all (by decide)
  | some value => exact plain_paint value

theorem settled_dimensionDeclarations {property fill : List Char}
    (named : property.all isWordPart = true) (namedFill : fill.all isWordPart = true)
    (dimension : Option Dimension) :
    ∀ entry ∈ dimensionDeclarations (String.ofList property) (String.ofList fill) dimension,
      Settled entry := by
  cases dimension with
  | none => exact List.forall_mem_nil _
  | some dimension =>
    cases dimension with
    | fixed length => exact settled_one (settled_pixels named length)
    | infinity =>
      exact settled_cons (settled_constant namedFill rfl (by decide))
        (settled_of_ite (settled_one (settled_constant named rfl (by decide)))
          (List.forall_mem_nil _))

theorem settled_place {property : List Char} (named : property.all isWordPart = true)
    (place : Place) : Settled (String.ofList property, place.flexible) := by
  cases place with
  | start => exact settled_constant named rfl (by decide)
  | center => exact settled_constant named rfl (by decide)
  | finish => exact settled_constant named rfl (by decide)

theorem settled_frameDeclarations (frame : Frame) :
    ∀ entry ∈ frameDeclarations frame, Settled entry := by
  refine settled_append (settled_append (settled_append (settled_append (settled_append
    (settled_append (settled_append ?_ ?_) ?_) ?_) ?_) ?_) ?_) ?_
  · exact settled_dimensionDeclarations (by decide) (by decide) frame.width
  · exact settled_dimensionDeclarations (by decide) (by decide) frame.height
  · exact settled_dimensionDeclarations (by decide) (by decide) frame.minWidth
  · exact settled_dimensionDeclarations (by decide) (by decide) frame.maxWidth
  · exact settled_dimensionDeclarations (by decide) (by decide) frame.minHeight
  · exact settled_dimensionDeclarations (by decide) (by decide) frame.maxHeight
  · exact settled_of_ite (settled_one (settled_constant (by decide) rfl (by decide)))
      (List.forall_mem_nil _)
  · exact settled_of_ite (settled_cons (settled_constant (by decide) rfl (by decide))
      (settled_cons (settled_place (by decide) _) (settled_one (settled_place (by decide) _))))
      (List.forall_mem_nil _)

/-- What an optional value declares. -/
theorem settled_option {α : Type} (declare : α → String × String)
    (settled : ∀ value, Settled (declare value)) (value : Option α) :
    ∀ entry ∈ (value.map declare).toList, Settled entry := by
  cases value with
  | none => exact List.forall_mem_nil _
  | some value => exact settled_one (settled value)

theorem settled_aspectRatioDeclarations (value : AspectRatio) :
    ∀ entry ∈ aspectRatioDeclarations value, Settled entry := by
  refine settled_append (settled_option (fun ratio ↦ ("aspect-ratio", styleText ratio))
    (fun ratio ↦ settled_number (by decide) ratio) value.ratio) ?_
  split
  · exact settled_one (settled_constant (by decide) rfl (by decide))
  · exact settled_one (settled_constant (by decide) rfl (by decide))
  · exact List.forall_mem_nil _

theorem settled_shadowDeclaration (kind : Kind) (shadow : Shadow) :
    Settled (shadowDeclaration kind shadow) := by
  have begins : Begins (shadowDeclaration kind shadow).2 := by
    unfold shadowDeclaration
    iterate 6 apply begins_append
    exact begins_pixels _
  have plain : Plain (shadowDeclaration kind shadow).2 := by
    unfold shadowDeclaration
    simp only [Plain, consists_append, plain_pixels, true_and, and_true]
    have blank : Consists isPlain " " := consists_of_all (by decide)
    refine ⟨⟨⟨blank, blank⟩, blank⟩, ?_⟩
    cases shadow.color with
    | none => exact consists_of_all (by decide)
    | some color => exact plain_paint color
  refine ⟨?_, begins, closed_of_plain plain⟩
  unfold shadowDeclaration
  dsimp only
  split
  · exact consists_of_all (by decide)
  · exact consists_of_all (by decide)

theorem settled_clipRadius (clip : ClipShape) : Settled ("border-radius", clipRadius clip) := by
  unfold clipRadius
  split
  · exact settled_constant (by decide) rfl (by decide)
  · exact settled_constant (by decide) rfl (by decide)
  · exact settled_constant (by decide) rfl (by decide)
  · exact settled_pixels (by decide) _
  · exact settled_constant (by decide) rfl (by decide)

theorem settled_textAlignment (token : String) : Settled ("text-align", textAlignment token) := by
  unfold textAlignment
  split
  all_goals exact settled_constant (by decide) rfl (by decide)

theorem settled_textTransform (token : String) :
    Settled ("text-transform", textTransform token) := by
  unfold textTransform
  split
  all_goals exact settled_constant (by decide) rfl (by decide)

/-- The families of a design are closed; the usual ones have a quoted family among them. -/
theorem settled_fontDesign (design : String) : Settled ("font-family", fontDesign design) := by
  unfold fontDesign
  split
  case h_4 =>
    exact ⟨consists_of_all (by decide), begins_cons rfl, by decide +kernel⟩
  all_goals exact settled_constant (by decide) rfl (by decide)

/-- Two coordinates with a blank between them. -/
theorem settled_pair {property : List Char} {first second : String}
    (named : property.all isWordPart = true) (begins : Begins first) (plain : Plain first)
    (plainSecond : Plain second) : Settled (String.ofList property, first ++ " " ++ second) := by
  refine settled_of_plain named (begins_append (begins_append begins)) ?_
  exact consists_append.mpr
    ⟨consists_append.mpr ⟨plain, consists_of_all (by decide)⟩, plainSecond⟩

/-! ## Families -/

/-- A text without its single quotes. -/
def withoutQuotes (text : List Char) : List Char :=
  text.filter (· != '\'')

/-- The number of backslashes at the end of a text. -/
def trailingBackslashes (text : List Char) : Nat :=
  (text.reverse.takeWhile (· == '\\')).length

/-- Whether an even number of backslashes stands at the end of a family without its quotes, so that
the quote behind the family ends the string. -/
def EndsEvenly (family : String) : Prop :=
  Even (trailingBackslashes (withoutQuotes family.toList))

theorem withoutQuotes_append (first second : List Char) :
    withoutQuotes (first ++ second) = withoutQuotes first ++ withoutQuotes second :=
  List.filter_append first second

theorem withoutQuotes_singleton {c : Char} (noQuote : c ≠ '\'') : withoutQuotes [c] = [c] := by
  simp [withoutQuotes, noQuote]

theorem trailingBackslashes_append_other {c : Char} (other : c ≠ '\\') (text : List Char) :
    trailingBackslashes (text ++ [c]) = 0 := by
  simp [trailingBackslashes, other]

theorem trailingBackslashes_append_backslash (text : List Char) :
    trailingBackslashes (text ++ ['\\']) = trailingBackslashes text + 1 := by
  simp [trailingBackslashes]

/-- Behind a character that is neither a quote nor a backslash the string goes on and no escape is
left open, however the character is written. -/
theorem passes_escapeChar {c : Char} (noQuote : c ≠ '\'') (noBackslash : c ≠ '\\')
    {quoting : Quoting} (inString : quoting = .inside '\'' ∨ quoting = .escaped '\'') :
    passes quoting (withoutQuotes (Html.escapeChar c)) = some (.inside '\'') := by
  unfold Html.escapeChar
  split
  case h_5 =>
    rw [withoutQuotes_singleton noQuote]
    rcases inString with rfl | rfl
    · simp [passes, Quoting.step, noQuote, noBackslash]
    · simp [passes, Quoting.step]
  all_goals
    rcases inString with rfl | rfl
    all_goals decide

/-- A string goes on behind a family without its quotes; the family ends in an escape when the
number of its last backslashes is odd. -/
theorem passes_family (family : List Char) :
    passes (.inside '\'') (withoutQuotes (family.flatMap Html.escapeChar)) =
      some (if Even (trailingBackslashes (withoutQuotes family)) then .inside '\''
        else .escaped '\'') := by
  induction family using List.reverseRecOn with
  | nil => rfl
  | append_singleton family c ih =>
    rw [List.flatMap_append, withoutQuotes_append, withoutQuotes_append, passes_append ih,
      List.flatMap_singleton]
    by_cases isQuote : c = '\''
    · have removed : withoutQuotes ['\''] = [] := rfl
      have removedWritten : withoutQuotes (Html.escapeChar '\'') = [] := rfl
      rw [isQuote, removed, removedWritten, List.append_nil, passes]
    · rw [withoutQuotes_singleton isQuote]
      by_cases isBackslash : c = '\\'
      · rw [isBackslash, trailingBackslashes_append_backslash]
        by_cases even : Even (trailingBackslashes (withoutQuotes family))
        · rw [if_pos even, if_neg fun next ↦ Nat.even_add_one.mp next even]
          rfl
        · rw [if_neg even, if_pos (Nat.even_add_one.mpr even)]
          rfl
      · rw [trailingBackslashes_append_other isBackslash, if_pos Even.zero]
        apply passes_escapeChar isQuote isBackslash
        split
        · exact Or.inl rfl
        · exact Or.inr rfl

/-- The quote behind a family ends its string when the family ends evenly. -/
theorem passes_familyText (family : String) : passes .outside (familyText family).toList =
    some (if Even (trailingBackslashes (withoutQuotes family.toList)) then .outside
      else .inside '\'') := by
  have written : (familyText family).toList =
      '\'' :: (withoutQuotes (family.toList.flatMap Html.escapeChar) ++ "', sans-serif".toList) := by
    simp [familyText, Html.escape, withoutQuotes, String.toList_append]
  have begins : passes .outside (familyText family).toList =
      passes (.inside '\'')
        (withoutQuotes (family.toList.flatMap Html.escapeChar) ++ "', sans-serif".toList) := by
    rw [written]
    rfl
  rw [begins, passes_append (passes_family family.toList)]
  split
  · decide
  · decide

theorem closed_familyText_iff (family : String) :
    Closed (familyText family) ↔ EndsEvenly family := by
  rw [Closed, passes_familyText, EndsEvenly]
  split
  · next even => exact iff_of_true rfl even
  · next odd => exact iff_of_false (by simp) odd

theorem begins_familyText (family : String) : Begins (familyText family) := by
  unfold familyText
  exact begins_append (begins_append (begins_cons rfl))

/-! ## Fonts -/

/-- Whether a declaration is settled or names a family. -/
def Declares (entry : String × String) : Prop :=
  Settled entry ∨ ∃ family, entry = ("font-family", familyText family)

theorem declares_of_settled {entries : List (String × String)}
    (settled : ∀ entry ∈ entries, Settled entry) : ∀ entry ∈ entries, Declares entry :=
  fun entry member ↦ Or.inl (settled entry member)

theorem settled_textStyle (style : Option String) :
    ∀ entry ∈ (match style with
      | some style =>
        [("font-size", pixels (textStyle style).1), ("font-weight", natText (textStyle style).2)]
      | none => []), Settled entry := by
  cases style with
  | none => exact List.forall_mem_nil _
  | some style =>
    exact settled_cons (settled_pixels (by decide) _) (settled_one (settled_natural (by decide) _))

/-- A font declares a family last, and nothing else that is not settled. -/
theorem declares_fontDeclarations (font : Font) :
    ∀ entry ∈ fontDeclarations font, Declares entry := by
  have size := settled_option (fun size ↦ ("font-size", pixels size))
    (fun size ↦ settled_pixels (by decide) size) font.size
  have weight := settled_option (fun weight ↦ ("font-weight", natText (fontWeight weight)))
    (fun weight ↦ settled_natural (by decide) _) font.weight
  have design := settled_option (fun design ↦ ("font-family", fontDesign design))
    settled_fontDesign font.design
  refine List.forall_mem_append.mpr ⟨declares_of_settled (settled_append (settled_append
    (settled_append (settled_textStyle font.style) size) weight) design), ?_⟩
  cases font.family with
  | none => exact List.forall_mem_nil _
  | some family => exact List.forall_mem_singleton.mpr (Or.inr ⟨family, rfl⟩)

/-- Whatever a modifier declares is settled or names a family. -/
theorem declares_modifierDeclarations (kind : Kind) (options : RenderOptions)
    (modifier : Modifier View) :
    ∀ entry ∈ modifierDeclarations kind options modifier, Declares entry := by
  unfold modifierDeclarations
  dsimp only
  split
  case h_11 value _ _ => exact declares_fontDeclarations value
  all_goals apply declares_of_settled
  case h_1 value _ _ => exact settled_paddingDeclarations value options
  case h_2 value _ _ | h_3 value _ _ => exact settled_foreground kind value
  case h_4 value _ _ | h_5 value _ _ =>
    exact settled_cons (settled_paint (by decide) value)
      (settled_one (settled_paint (by decide) value))
  case h_6 value _ _ => exact settled_one (settled_paint (by decide) value)
  case h_7 value _ _ => exact settled_background value
  case h_8 value _ _ | h_9 value _ _ =>
    exact settled_cons (settled_constant (by decide) rfl (by decide))
      (settled_one (settled_line value))
  case h_10 value _ _ => exact settled_one (settled_line value)
  case h_12 value _ _ => exact settled_one (settled_natural (by decide) _)
  case h_13 | h_14 =>
    split
    · exact settled_one (settled_constant (by decide) rfl (by decide))
    · exact settled_one (settled_constant (by decide) rfl (by decide))
  case h_15 | h_16 | h_37 | h_41 =>
    exact settled_whenOn (settled_one (settled_constant (by decide) rfl (by decide)))
  case h_17 => exact settled_whenOn (settled_one (settled_fontDesign _))
  case h_18 value _ _ => exact settled_one (settled_textAlignment value)
  case h_19 value _ _ => exact settled_one (settled_textTransform value)
  case h_20 value _ _ =>
    exact settled_cons (settled_constant (by decide) rfl (by decide))
      (settled_cons (settled_number (by decide) value)
        (settled_cons (settled_constant (by decide) rfl (by decide))
          (settled_one (settled_constant (by decide) rfl (by decide)))))
  case h_21 value _ _ | h_22 value _ _ => exact settled_one (settled_pixels (by decide) value)
  case h_23 value _ _ =>
    have plain : Plain ("calc(1.2em + " ++ pixels value ++ ")") := consists_append.mpr
      ⟨consists_append.mpr ⟨consists_of_all (by decide), plain_pixels value⟩,
        consists_of_all (by decide)⟩
    exact settled_one
      (settled_of_plain (by decide) (begins_append (begins_append (begins_cons rfl))) plain)
  case h_24 value _ _ =>
    exact settled_cons (settled_pixels (by decide) value)
      (settled_one (settled_constant (by decide) rfl (by decide)))
  case h_25 value _ _ | h_33 value _ _ => exact settled_one (settled_number (by decide) value)
  case h_26 value _ _ => exact settled_frameDeclarations value
  case h_27 value _ _ =>
    exact settled_one
      (settled_pair (by decide) (begins_pixels _) (plain_pixels _) (plain_pixels _))
  case h_28 value _ _ =>
    exact settled_cons (settled_constant (by decide) rfl (by decide))
      (settled_cons (settled_pixels (by decide) _) (settled_cons (settled_pixels (by decide) _)
        (settled_one (settled_constant (by decide) rfl (by decide)))))
  case h_29 value _ _ => exact settled_aspectRatioDeclarations value
  case h_30 | h_31 | h_43 | h_44 =>
    exact settled_one (settled_constant (by decide) rfl (by decide))
  case h_32 value _ _ =>
    have plain : Plain (styleText value.inDegrees ++ "deg") :=
      consists_append.mpr ⟨plain_styleText _, consists_of_all (by decide)⟩
    exact settled_one (settled_of_plain (by decide) (begins_append (begins_styleText _)) plain)
  case h_34 value _ _ =>
    exact settled_one
      (settled_pair (by decide) (begins_styleText _) (plain_styleText _) (plain_styleText _))
  case h_35 value _ _ => exact settled_one (settled_shadowDeclaration kind value)
  case h_36 value _ _ =>
    exact settled_cons (settled_clipRadius value)
      (settled_one (settled_constant (by decide) rfl (by decide)))
  case h_38 value _ _ =>
    exact settled_cons (settled_constant (by decide) rfl (by decide))
      (settled_one (settled_number (by decide) value))
  case h_39 value _ _ =>
    exact settled_of_ite (settled_one (settled_constant (by decide) rfl (by decide)))
      (List.forall_mem_nil _)
  case h_40 | h_42 =>
    exact settled_whenOn (settled_cons (settled_constant (by decide) rfl (by decide))
      (settled_one (settled_constant (by decide) rfl (by decide))))
  case h_45 => exact List.forall_mem_nil _

/-! ## Views -/

/-- The filters in effect after filters were put into effect one after the other: of those with one
name the last one. -/
def filtersInEffect (filters : List Filter) : List Filter :=
  filters.foldl (fun earlier filter ↦
    earlier.filter (fun existing ↦ existing.name != filter.name) ++ [filter]) []

/-- The declarations of filters, all of which are written as one declaration. -/
def filterDeclarations (filters : List Filter) : List Declaration :=
  if filters.isEmpty then [] else [⟨"filter", " ".intercalate (filters.map Filter.write)⟩]

/-- What the style of a view declares: what its kind and then each of its modifiers declares, and
the filters in effect. -/
def declared (view : View) (options : RenderOptions) : List Declaration :=
  (kindDeclarations view options ++
      view.modifiers.flatMap (modifierDeclarations view.kind options)).map
    (fun entry ↦ ⟨entry.1, entry.2⟩) ++
  filterDeclarations (filtersInEffect (view.modifiers.filterMap modifierFilter?))

section Views

variable (view : View) (options : RenderOptions)

/-- Modifiers add their declarations and put their filters into effect in chain order. -/
theorem foldl_addModifierStyle (kind : Kind) (modifiers : List (Modifier View))
    (style : InlineStyle) :
    modifiers.foldl (addModifierStyle kind options) style =
      { declarations := style.declarations ++
          (modifiers.flatMap (modifierDeclarations kind options)).map
            fun entry ↦ ⟨entry.1, entry.2⟩
        filters := (modifiers.filterMap modifierFilter?).foldl (fun earlier filter ↦
          earlier.filter (fun existing ↦ existing.name != filter.name) ++ [filter])
          style.filters } := by
  induction modifiers generalizing style with
  | nil => simp
  | cons modifier modifiers ih =>
    rw [List.foldl_cons, ih, addModifierStyle]
    cases found : modifierFilter? modifier with
    | none =>
      simp [found, InlineStyle.pushAll]
    | some filter =>
      simp [found, InlineStyle.pushAll, InlineStyle.filter]

/-- The style of a view is that of its kind with the contributions of its modifiers. -/
theorem viewStyle_eq :
    viewStyle view options =
      { declarations := (kindDeclarations view options ++
          view.modifiers.flatMap (modifierDeclarations view.kind options)).map
            fun entry ↦ ⟨entry.1, entry.2⟩
        filters := filtersInEffect (view.modifiers.filterMap modifierFilter?) } := by
  rw [viewStyle, addModifiersStyle, foldl_addModifierStyle]
  simp [kindStyle, InlineStyle.pushAll, filtersInEffect]

theorem viewStyle_allDeclarations : (viewStyle view options).allDeclarations =
    declared view options := by
  rw [viewStyle_eq]
  rfl

theorem mem_of_mem_filtersInEffect {filters : List Filter} {filter : Filter}
    (member : filter ∈ filtersInEffect filters) : filter ∈ filters := by
  have within : ∀ earlier, ∀ later ∈ filters.foldl (fun earlier filter ↦
      earlier.filter (fun existing ↦ existing.name != filter.name) ++ [filter]) earlier,
      later ∈ earlier ∨ later ∈ filters := by
    clear member
    induction filters with
    | nil => exact fun earlier later member ↦ Or.inl member
    | cons first others ih =>
      intro earlier later member
      rcases ih _ later member with before | after
      · rcases List.mem_append.mp before with kept | added
        · exact Or.inl (List.mem_filter.mp kept).1
        · rw [List.mem_singleton.mp added]
          exact Or.inr List.mem_cons_self
      · exact Or.inr (List.mem_cons_of_mem _ after)
  rcases within [] filter member with impossible | found
  · exact absurd impossible List.not_mem_nil
  · exact found

/-- Every filter is written as a plain text. -/
theorem plain_write_of_modifierFilter? {modifier : Modifier View} {filter : Filter}
    (found : modifierFilter? modifier = some filter) :
    Begins filter.write ∧ Plain filter.write := by
  have written {name : List Char} {argument : String} {c : Char} (visible : isBlank c = false)
      (named : (c :: name).all isPlain = true) (plain : Plain argument) :
      Begins (Filter.write ⟨String.ofList (c :: name), argument⟩) ∧
        Plain (Filter.write ⟨String.ofList (c :: name), argument⟩) := by
    refine ⟨begins_append (begins_append (begins_append (begins_cons visible))), ?_⟩
    refine consists_append.mpr ⟨consists_append.mpr ⟨consists_append.mpr ⟨?_, ?_⟩, plain⟩, ?_⟩
    · exact consists_of_all named
    · exact consists_of_all (by decide)
    · exact consists_of_all (by decide)
  unfold modifierFilter? at found
  split at found
  case h_7 => cases found
  all_goals rw [← Option.some.inj found]
  case h_1 =>
    exact written rfl (by decide)
      (consists_append.mpr ⟨plain_styleText _, consists_of_all (by decide)⟩)
  case h_2 => exact written rfl (by decide) (plain_pixels _)
  all_goals exact written rfl (by decide) (plain_styleText _)

theorem settled_filterDeclarations {filters : List Filter}
    (plain : ∀ filter ∈ filters, Begins filter.write ∧ Plain filter.write) :
    ∀ declaration ∈ filterDeclarations filters,
      Settled (declaration.property, declaration.value) := by
  cases filters with
  | nil => exact List.forall_mem_nil _
  | cons first others =>
    have begins : Begins (" ".intercalate ((first :: others).map Filter.write)) := by
      have beginsFirst := (plain first List.mem_cons_self).1
      cases others with
      | nil =>
        rw [List.map_cons, List.map_nil, String.intercalate_singleton]
        exact beginsFirst
      | cons second others =>
        rw [List.map_cons, List.map_cons, String.intercalate_cons_cons]
        exact begins_append (begins_append beginsFirst)
    refine List.forall_mem_singleton.mpr (settled_of_plain (by decide) begins ?_)
    apply consists_intercalate (consists_of_all (by decide))
    intro text member
    obtain ⟨filter, inFilters, rfl⟩ := List.mem_map.mp member
    exact (plain filter inFilters).2

/-- Whatever the style of a view declares is settled or names a family. -/
theorem declares_declared : ∀ declaration ∈ declared view options,
    Declares (declaration.property, declaration.value) := by
  intro declaration member
  rcases List.mem_append.mp member with pushed | filter
  · obtain ⟨entry, inEntries, rfl⟩ := List.mem_map.mp pushed
    rcases List.mem_append.mp inEntries with ofKind | ofModifiers
    · exact Or.inl (settled_kindDeclarations view options entry ofKind)
    · obtain ⟨modifier, -, ofModifier⟩ := List.mem_flatMap.mp ofModifiers
      exact declares_modifierDeclarations view.kind options modifier entry ofModifier
  · refine Or.inl (settled_filterDeclarations (fun filter inEffect ↦ ?_) declaration filter)
    obtain ⟨modifier, -, found⟩ := List.mem_filterMap.mp (mem_of_mem_filtersInEffect inEffect)
    exact plain_write_of_modifierFilter? found

theorem readable_of_declares {declaration : Declaration}
    (declares : Declares (declaration.property, declaration.value)) : declaration.Readable := by
  rcases declares with settled | ⟨family, same⟩
  · exact ⟨settled.property, settled.begins, .outside, settled.closed⟩
  · obtain ⟨ofProperty, ofValue⟩ := Prod.mk.inj same
    constructor
    case property =>
      rw [ofProperty]
      exact consists_of_all (by decide)
    case begins =>
      rw [ofValue]
      exact begins_familyText family
    case goesOn =>
      rw [ofValue]
      exact ⟨_, passes_familyText family⟩

/-- Reading the style of a view gives back what it declares, in this order, exactly when every
family that is followed by another declaration ends evenly. -/
theorem readStyle_viewStyle_iff :
    readStyle (viewStyle view options).text = declared view options ↔
      ∀ family, ⟨"font-family", familyText family⟩ ∈ (declared view options).dropLast →
        EndsEvenly family := by
  have declares := declares_declared view options
  rw [InlineStyle.text, viewStyle_allDeclarations, readStyle_intercalate_iff
    fun declaration member ↦ readable_of_declares (declares declaration member)]
  constructor
  · intro closed family member
    exact (closed_familyText_iff family).mp (closed ⟨"font-family", familyText family⟩ member)
  · intro even declaration member
    rcases declares declaration (List.dropLast_subset _ member) with settled | ⟨family, same⟩
    · exact settled.closed
    · obtain ⟨ofProperty, ofValue⟩ := Prod.mk.inj same
      rw [ofValue, closed_familyText_iff]
      apply even family
      rw [← ofProperty, ← ofValue]
      exact member

/-- A text with two fonts: the first family is a backslash, and the second one holds a declaration
between semicolons. -/
def escapingFamilies : View :=
  { kind := .text
    properties := [("text", .text "a")]
    modifiers := [⟨"font", .font { family := some "\\" }⟩,
      ⟨"font", .font { family := some "; color: red; x: " }⟩]
    children := [] }

/-- The string that the first family leaves open ends where the second one begins, so that the
second family is read as declarations: a color that nothing declares. -/
theorem escapingFamilies_declare_color :
    ⟨"color", "red"⟩ ∈ readStyle (viewStyle escapingFamilies {}).text ∧
      ⟨"color", "red"⟩ ∉ declared escapingFamilies {} := by
  decide +kernel

end Views

end ViewPreview.Style
