import ViewPreview.Proofs.Html.Inert
import ViewPreview.Proofs.Number.Integer
import ViewPreview.Style.Alignment
import ViewPreview.Style.Declarations
import ViewPreview.Style.Palette

/-!
# Plain Style Text

Numbers, colors, gradients and places are put into a style sheet as they stand.  Numbers and colors
are words: letters, digits and a few signs, because the only color that stands for itself is one
made of hexadecimal digits.  Everything made from them is plain: words with blanks, commas and
parentheses between them.  A plain text ends neither a declaration nor a string of a style sheet,
and is inert in markup.  A paint is no more than a list of words, or a list that a name is applied
to, and no word of it has a plus sign, because its numbers are written with all their places.
-/

namespace ViewPreview.Style

open InlineStyle (pixels)
open ViewPreview.Html (Inert isInert)
open ViewPreview.Number
open ViewPreview.Text

/-- A character of the words of a style sheet: its numbers, names and colors. -/
def isWordPart (c : Char) : Bool :=
  isAsciiLetter c || isAsciiDigit c || ['#', '%', '+', '-', '.'].contains c

/-- A character of a word that is no number with a power of ten. -/
def isTermPart (c : Char) : Bool :=
  isAsciiLetter c || isAsciiDigit c || ['#', '%', '-', '.'].contains c

/-- A character of terms or of what may stand between them in a list. -/
def isListPart (c : Char) : Bool :=
  isTermPart c || [' ', ','].contains c

/-- A character of words or of what may stand between them. -/
def isPlain (c : Char) : Bool :=
  isWordPart c || [' ', ',', '(', ')'].contains c

theorem isPlain_of_isWordPart {c : Char} (inWord : isWordPart c = true) : isPlain c = true :=
  Bool.or_eq_true_iff.mpr (Or.inl inWord)

theorem isWordPart_of_isTermPart {c : Char} (inTerm : isTermPart c = true) :
    isWordPart c = true := by
  simp only [isTermPart, isWordPart, Bool.or_eq_true, List.contains_iff_mem, List.mem_cons,
    List.not_mem_nil, or_false] at inTerm ⊢
  rcases inTerm with alphanumeric | rfl | rfl | rfl | rfl
  · exact .inl alphanumeric
  all_goals decide

theorem isListPart_of_isTermPart {c : Char} (inTerm : isTermPart c = true) :
    isListPart c = true :=
  Bool.or_eq_true_iff.mpr (Or.inl inTerm)

theorem isPlain_of_isListPart {c : Char} (inList : isListPart c = true) : isPlain c = true := by
  rcases Bool.or_eq_true_iff.mp inList with inTerm | between
  · exact isPlain_of_isWordPart (isWordPart_of_isTermPart inTerm)
  · simp only [List.contains_iff_mem, List.mem_cons, List.not_mem_nil, or_false] at between
    rcases between with rfl | rfl
    all_goals decide

theorem ne_of_isPlain {c d : Char} (plain : isPlain c = true) (other : isPlain d = false) :
    c ≠ d := by
  rintro rfl
  exact Bool.false_ne_true (other.symm.trans plain)

theorem isInert_of_isPlain {c : Char} (plain : isPlain c = true) : isInert c = true :=
  Html.isInert_iff.mpr ⟨ne_of_isPlain plain (by decide), ne_of_isPlain plain (by decide),
    ne_of_isPlain plain (by decide)⟩

/-- A text of words and of what may stand between them. -/
abbrev Plain (text : String) : Prop :=
  Consists isPlain text

/-- A text of words without anything between them. -/
abbrev Worded (text : String) : Prop :=
  Consists isWordPart text

/-- A text of names and of numbers with all their places. -/
abbrev Term (text : String) : Prop :=
  Consists isTermPart text

/-- A text of terms with blanks and commas between them. -/
abbrev Listed (text : String) : Prop :=
  Consists isListPart text

theorem worded_of_term {text : String} (term : Term text) : Worded text :=
  term.mono fun _ ↦ isWordPart_of_isTermPart

theorem listed_of_term {text : String} (term : Term text) : Listed text :=
  term.mono fun _ ↦ isListPart_of_isTermPart

theorem plain_of_listed {text : String} (listed : Listed text) : Plain text :=
  listed.mono fun _ ↦ isPlain_of_isListPart

theorem plain_of_worded {text : String} (worded : Worded text) : Plain text :=
  worded.mono fun _ ↦ isPlain_of_isWordPart

theorem inert_of_plain {text : String} (plain : Plain text) : Inert text :=
  plain.mono fun _ ↦ isInert_of_isPlain

/-! ## Numbers -/

theorem isTermPart_of_isAsciiDigit {c : Char} (digit : isAsciiDigit c = true) :
    isTermPart c = true := by
  rw [isTermPart, digit, Bool.or_true, Bool.true_or]

theorem isWordPart_of_isAsciiDigit {c : Char} (digit : isAsciiDigit c = true) :
    isWordPart c = true :=
  isWordPart_of_isTermPart (isTermPart_of_isAsciiDigit digit)

theorem isTermPart_of_mem_digitsOf {n : Nat} {c : Char} (member : c ∈ digitsOf n) :
    isTermPart c = true :=
  isTermPart_of_isAsciiDigit (isAsciiDigit_of_mem_digitsOf member)

theorem isWordPart_of_mem_digitsOf {n : Nat} {c : Char} (member : c ∈ digitsOf n) :
    isWordPart c = true :=
  isWordPart_of_isTermPart (isTermPart_of_mem_digitsOf member)

theorem term_natText (n : Nat) : Term (natText n) :=
  consists_ofList fun _ member ↦ isTermPart_of_mem_digitsOf member

theorem worded_natText (n : Nat) : Worded (natText n) :=
  worded_of_term (term_natText n)

theorem isTermPart_of_mem_zeros {n : Nat} {c : Char} (member : c ∈ zeros n) :
    isTermPart c = true := by
  rw [List.eq_of_mem_replicate member]
  decide

theorem worded_exponentText (exponent : Int) : Worded (exponentText exponent) := by
  unfold exponentText
  refine consists_append.mpr ⟨?_, ?_⟩
  · split
    · exact consists_of_all (by decide)
    · exact consists_of_all (by decide)
  · apply consists_ofList
    split
    · intro c member
      rcases List.mem_cons.mp member with rfl | inDigits
      · decide
      · exact isWordPart_of_mem_digitsOf inDigits
    · exact fun _ member ↦ isWordPart_of_mem_digitsOf member

/-- The places of a decimal are digits and a point. -/
theorem term_positional {layout : Layout} (wholeEnd : Term layout.wholeEnd) (d : Decimal) :
    Term (layout.positional d) := by
  unfold Layout.positional
  split
  · refine consists_append.mpr ⟨consists_ofList fun c member ↦ ?_, wholeEnd⟩
    rcases List.mem_append.mp member with digit | zero
    · exact isTermPart_of_mem_digitsOf digit
    · exact isTermPart_of_mem_zeros zero
  · dsimp only
    split
    · apply consists_ofList
      intro c member
      rcases List.mem_append.mp member with front | back
      · exact isTermPart_of_mem_digitsOf (List.mem_of_mem_take front)
      · rcases List.mem_cons.mp back with rfl | digit
        · decide
        · exact isTermPart_of_mem_digitsOf (List.mem_of_mem_drop digit)
    · apply consists_ofList
      intro c member
      simp only [List.mem_cons, List.mem_append] at member
      rcases member with rfl | rfl | zero | digit
      · decide
      · decide
      · exact isTermPart_of_mem_zeros zero
      · exact isTermPart_of_mem_digitsOf digit

theorem worded_scientific (d : Decimal) : Worded (scientific d) := by
  unfold scientific
  split
  · exact consists_of_all (by decide)
  · next first rest same =>
    have inDigits : ∀ c ∈ first :: rest, isWordPart c = true := by
      intro c member
      rw [← same] at member
      exact isWordPart_of_mem_digitsOf member
    obtain ⟨inFirst, inRest⟩ := List.forall_mem_cons.mp inDigits
    refine consists_append.mpr ⟨consists_ofList ?_, worded_exponentText _⟩
    rw [List.forall_mem_cons, List.forall_mem_append]
    refine ⟨inFirst, ?_, inRest⟩
    split
    · exact List.forall_mem_nil _
    · rw [List.forall_mem_singleton]
      decide

/-- Apart from its digits a number is written with terms. -/
theorem consists_text {part : Char → Bool} (within : ∀ c, isTermPart c = true → part c = true)
    {layout : Layout} (wholeEnd : Term layout.wholeEnd)
    (magnitude : ∀ d, Consists part
      (if layout.isPositional d then layout.positional d else scientific d))
    (x : Float) : Consists part (layout.text x) := by
  have constant {text : List Char} (term : text.all isTermPart = true) :
      Consists part (String.ofList text) := (consists_of_all term).mono within
  unfold Layout.text
  split
  · exact constant (by decide)
  · split
    · exact constant (by decide)
    · exact constant (by decide)
  · next value _ =>
    have sign : Consists part (if value.negative then "-" else "") := by
      split
      · exact constant (by decide)
      · exact constant (by decide)
    dsimp only
    split
    · have zero : Consists part "0" := constant (by decide)
      exact consists_append.mpr ⟨consists_append.mpr ⟨sign, zero⟩, wholeEnd.mono within⟩
    · exact consists_append.mpr ⟨sign, magnitude _⟩

theorem worded_text {layout : Layout} (wholeEnd : Term layout.wholeEnd) (x : Float) :
    Worded (layout.text x) := by
  refine consists_text (fun _ ↦ isWordPart_of_isTermPart) wholeEnd (fun d ↦ ?_) x
  split
  · exact worded_of_term (term_positional wholeEnd d)
  · exact worded_scientific d

/-- Style sheets write all places of a number. -/
theorem term_styleText (x : Float) : Term (styleText x) := by
  have wholeEnd : Term Layout.plain.wholeEnd := by
    show Term ""
    exact consists_of_all (by decide)
  unfold styleText
  dsimp only
  split
  · exact consists_of_all (by decide)
  · exact consists_text (fun _ ↦ id) wholeEnd (fun d ↦ term_positional wholeEnd d) _

theorem worded_styleText (x : Float) : Worded (styleText x) :=
  worded_of_term (term_styleText x)

theorem worded_pixels (length : Float) : Worded (pixels length) :=
  consists_append.mpr ⟨worded_styleText length, consists_of_all (by decide)⟩

/-! ### Numbers are not empty -/

theorem positional_ne_empty (layout : Layout) (d : Decimal) : layout.positional d ≠ "" := by
  unfold Layout.positional
  split
  · simp [digitsOf_ne_nil]
  · dsimp only
    split
    · simp
    · simp

theorem scientific_ne_empty (d : Decimal) : scientific d ≠ "" := by
  unfold scientific
  split
  · next same => exact absurd same (digitsOf_ne_nil _)
  · simp

theorem text_ne_empty (layout : Layout) (x : Float) : layout.text x ≠ "" := by
  unfold Layout.text
  split
  · decide
  · split
    · decide
    · decide
  · dsimp only
    split
    · simp
    · intro empty
      have magnitude := (String.append_eq_empty_iff.mp empty).2
      split at magnitude
      · exact positional_ne_empty layout _ magnitude
      · exact scientific_ne_empty _ magnitude

theorem styleText_ne_empty (x : Float) : styleText x ≠ "" := by
  unfold styleText
  dsimp only
  split
  · decide
  · exact text_ne_empty _ _

/-! ## Colors -/

/-- A hexadecimal digit is a digit or one of the first letters. -/
theorem isTermPart_of_digitOf? {c : Char} (digit : (digitOf? 16 c).isSome = true) :
    isTermPart c = true := by
  have letter (small : isAsciiLetter c = true) : isTermPart c = true := by
    rw [isTermPart, small, Bool.true_or, Bool.true_or]
  simp only [isAsciiLetter_iff] at letter
  unfold digitOf? at digit
  simp only [Bool.and_eq_true, decide_eq_true_eq, Char.le_def, UInt32.le_iff_toNat_le] at digit
  split at digit
  · next isDigit => exact isTermPart_of_isAsciiDigit isDigit
  · split at digit
    · next small => exact letter (Or.inl ⟨small.1, Nat.le_trans small.2 (by decide)⟩)
    · split at digit
      · next capital => exact letter (Or.inr ⟨capital.1, Nat.le_trans capital.2 (by decide)⟩)
      · cases digit

theorem term_of_isHexColor {name : String} (isHex : isHexColor name = true) : Term name := by
  unfold isHexColor at isHex
  split at isHex
  · next digits same =>
    rw [Bool.and_eq_true, Bool.and_eq_true, List.all_eq_true] at isHex
    apply consists_iff.mpr
    rw [same, List.forall_mem_cons]
    exact ⟨by decide, fun c member ↦ isTermPart_of_digitOf? (isHex.1.1 c member)⟩
  · cases isHex

/-- A color that is neither in the table nor hexadecimal is the current one. -/
theorem term_color (name : String) : Term (color name) := by
  unfold color
  split
  case h_22 =>
    split
    · next isHex => exact term_of_isHexColor isHex
    · exact consists_of_all (by decide)
  all_goals exact consists_of_all (by decide)

theorem listed_color (name : String) : Listed (color name) :=
  listed_of_term (term_color name)

/-! ## Paints -/

/-- A list that a name is applied to. -/
def Applied (text : String) : Prop :=
  ∃ name arguments, text = name ++ "(" ++ arguments ++ ")" ∧ Listed name ∧ Listed arguments

theorem listed_gradientDirection (start finish : Option String) :
    Listed (gradientDirection start finish) := by
  unfold gradientDirection
  split
  all_goals exact consists_of_all (by decide)

theorem listed_colorStops (colors : List String) : Listed (colorStops colors) := by
  unfold colorStops
  split
  · exact consists_of_all (by decide)
  · apply consists_intercalate (consists_of_all (by decide))
    intro text member
    obtain ⟨name, -, rfl⟩ := List.mem_map.mp member
    exact listed_color name

theorem applied_material (name : String) : Applied (material name).1 := by
  have translucent {text : String} (arguments : String) (same : text = "rgba(" ++ arguments ++ ")")
      (listed : Listed arguments) : Applied text := by
    have opening : "rgba(" = "rgba" ++ "(" := by decide
    refine ⟨"rgba", arguments, ?_, consists_of_all (by decide), listed⟩
    rw [same, opening]
  unfold material
  split
  case h_1 => exact translucent "255, 255, 255, 0.35" (by decide) (consists_of_all (by decide))
  case h_2 => exact translucent "255, 255, 255, 0.5" (by decide) (consists_of_all (by decide))
  case h_3 => exact translucent "255, 255, 255, 0.8" (by decide) (consists_of_all (by decide))
  case h_4 => exact translucent "255, 255, 255, 0.9" (by decide) (consists_of_all (by decide))
  case h_5 => exact translucent "249, 249, 249, 0.94" (by decide) (consists_of_all (by decide))
  case h_6 => exact translucent "255, 255, 255, 0.65" (by decide) (consists_of_all (by decide))

/-- A color with an opacity is a color, or a function of one. -/
theorem listed_or_applied_colorWithOpacity (name : String) (opacity : Option Float) :
    Listed (colorWithOpacity name opacity) ∨ Applied (colorWithOpacity name opacity) := by
  have base := listed_color name
  have channel (n : Nat) : Listed (natText n) := listed_of_term (term_natText n)
  have number (x : Float) : Listed (styleText x) := listed_of_term (term_styleText x)
  have separator : Listed ", " := consists_of_all (by decide)
  unfold colorWithOpacity
  dsimp only
  split
  · exact .inl base
  · next alpha =>
    split
    · next red green blue _ =>
      have opening : "rgba(" = "rgba" ++ "(" := by decide
      refine .inr ⟨"rgba", natText red ++ ", " ++ natText green ++ ", " ++ natText blue ++ ", " ++
        styleText (clamp alpha 0.0 1.0), ?_, consists_of_all (by decide), ?_⟩
      · simp only [opening, String.append_assoc]
      · simp only [Listed, consists_append]
        exact ⟨⟨⟨⟨⟨⟨channel red, separator⟩, channel green⟩, separator⟩, channel blue⟩, separator⟩,
          number _⟩
    · split
      · exact .inl base
      · have opening : "color-mix(in srgb, " = "color-mix" ++ "(" ++ "in srgb, " := by decide
        have closing : "%, transparent)" = "%, transparent" ++ ")" := by decide
        refine .inr ⟨"color-mix", "in srgb, " ++ color name ++ " " ++ styleText (alpha * 100.0) ++
          "%, transparent", ?_, consists_of_all (by decide), ?_⟩
        · simp only [opening, closing, String.append_assoc]
        · simp only [Listed, consists_append]
          exact ⟨⟨⟨⟨consists_of_all (by decide), base⟩, consists_of_all (by decide)⟩, number _⟩,
            consists_of_all (by decide)⟩

/-- Every paint is a list of terms or one that a name is applied to, whatever the names of its
colors are. -/
theorem listed_or_applied_paint (value : Paint) : Listed (paint value) ∨ Applied (paint value) := by
  cases value with
  | color name opacity => exact listed_or_applied_colorWithOpacity name opacity
  | material name => exact .inr (applied_material name)
  | linearGradient colors start finish =>
    have opening : "linear-gradient(" = "linear-gradient" ++ "(" := by decide
    refine .inr ⟨"linear-gradient", gradientDirection start finish ++ ", " ++ colorStops colors,
      ?_, consists_of_all (by decide), ?_⟩
    · show linearGradient colors start finish = _
      unfold linearGradient
      rw [opening]
      simp only [String.append_assoc]
    · rw [Listed, consists_append, consists_append]
      exact ⟨⟨listed_gradientDirection start finish, consists_of_all (by decide)⟩,
        listed_colorStops colors⟩
  | radialGradient colors =>
    have opening : "radial-gradient(circle, " = "radial-gradient" ++ "(" ++ "circle, " := by decide
    refine .inr ⟨"radial-gradient", "circle, " ++ colorStops colors, ?_,
      consists_of_all (by decide), ?_⟩
    · show radialGradient colors = _
      unfold radialGradient
      rw [opening]
      simp only [String.append_assoc]
    · exact consists_append.mpr ⟨consists_of_all (by decide), listed_colorStops colors⟩

theorem Applied.plain {text : String} (applied : Applied text) : Plain text := by
  obtain ⟨name, arguments, rfl, named, listed⟩ := applied
  have opening : Plain "(" := consists_of_all (by decide)
  have closing : Plain ")" := consists_of_all (by decide)
  simp only [Plain, consists_append]
  exact ⟨⟨⟨plain_of_listed named, opening⟩, plain_of_listed listed⟩, closing⟩

/-- Every paint is plain. -/
theorem plain_paint (value : Paint) : Plain (paint value) := by
  rcases listed_or_applied_paint value with listed | applied
  · exact plain_of_listed listed
  · exact applied.plain

/-! ## Places -/

theorem plain_inCell (place : Place) : Plain place.inCell := by
  cases place
  all_goals exact consists_of_all (by decide)

theorem plain_cellPlace (token : Option String) : Plain (cellPlace token) := by
  unfold cellPlace
  simp only [Plain, consists_append, plain_inCell, and_true, true_and]
  exact consists_of_all (by decide)

/-! ## Beginnings -/

/-- A text that begins with a character other than a blank. -/
def Begins (text : String) : Prop :=
  ∃ c rest, text.toList = c :: rest ∧ isBlank c = false

theorem begins_append {first second : String} (begins : Begins first) :
    Begins (first ++ second) := by
  obtain ⟨c, rest, same, visible⟩ := begins
  refine ⟨c, rest ++ second.toList, ?_, visible⟩
  rw [String.toList_append, same, List.cons_append]

/-- A text that is written out begins with its first character. -/
theorem begins_cons {c : Char} {rest : List Char} (visible : isBlank c = false) :
    Begins (String.ofList (c :: rest)) :=
  ⟨c, rest, String.toList_ofList, visible⟩

theorem not_isBlank_of_isWordPart {c : Char} (inWord : isWordPart c = true) :
    isBlank c = false := by
  rw [isWordPart, Bool.or_eq_true] at inWord
  rcases inWord with alphanumeric | sign
  · apply not_isBlank_of_isIdentifierPart
    rw [isIdentifierPart, alphanumeric, Bool.true_or]
  · have visible : (['#', '%', '+', '-', '.'].all fun sign ↦ !isBlank sign) = true := rfl
    rw [← Bool.not_eq_true']
    exact List.all_eq_true.mp visible c (List.contains_iff_mem.mp sign)

theorem begins_of_worded {text : String} (nonempty : text ≠ "") (worded : Worded text) :
    Begins text := by
  obtain ⟨c, rest, same⟩ := List.exists_cons_of_ne_nil (mt String.toList_eq_nil_iff.mp nonempty)
  have inWord := consists_iff.mp worded c (same ▸ List.mem_cons_self)
  exact ⟨c, rest, same, not_isBlank_of_isWordPart inWord⟩

theorem begins_styleText (x : Float) : Begins (styleText x) :=
  begins_of_worded (styleText_ne_empty x) (worded_styleText x)

theorem begins_natText (n : Nat) : Begins (natText n) := by
  apply begins_of_worded _ (worded_natText n)
  simp [natText, digitsOf_ne_nil]

theorem begins_color (name : String) : Begins (color name) := by
  unfold color
  split
  case h_22 =>
    split
    · next isHex =>
      apply begins_of_worded _ (worded_of_term (term_of_isHexColor isHex))
      rintro rfl
      exact absurd isHex (by decide)
    · exact begins_cons rfl
  all_goals exact begins_cons rfl

theorem begins_paint (value : Paint) : Begins (paint value) := by
  cases value with
  | color name opacity =>
    unfold paint colorWithOpacity
    dsimp only
    split
    · exact begins_color name
    · split
      · repeat apply begins_append
        exact begins_cons rfl
      · split
        · exact begins_color name
        · repeat apply begins_append
          exact begins_cons rfl
  | material name =>
    unfold paint material
    dsimp only
    split
    all_goals exact begins_cons rfl
  | linearGradient colors start finish =>
    unfold paint linearGradient
    repeat apply begins_append
    exact begins_cons rfl
  | radialGradient colors =>
    unfold paint radialGradient
    repeat apply begins_append
    exact begins_cons rfl

/-! ## Inert texts -/

theorem inert_styleText (x : Float) : Inert (styleText x) :=
  inert_of_plain (plain_of_worded (worded_styleText x))

theorem inert_paint (value : Paint) : Inert (paint value) :=
  inert_of_plain (plain_paint value)

theorem inert_cellPlace (token : Option String) : Inert (cellPlace token) :=
  inert_of_plain (plain_cellPlace token)

end ViewPreview.Style
