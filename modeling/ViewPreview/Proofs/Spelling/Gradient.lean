import ViewPreview.Call.Constructor
import ViewPreview.Proofs.Spelling.Color
import ViewPreview.Style.Palette

/-!
# The Stops of a Gradient

The colors of a gradient are the items of a list, and an item is read as a name and not as a paint.
An enumeration case gives the same name either way.  A constructed color gives the last identifier
in its text: for an asset the last one in its name, and for a color mixed from channels the label of
the last channel, so that every mixed color becomes the same stop.
-/

namespace ViewPreview.Spelling

open ViewPreview.Text ViewPreview.Call ViewPreview.Number ViewPreview.Canonical

/-! ## The identifiers of a text -/

section Identifiers

variable {c : Char} {pending front : List Char}

/-- An identifier that has begun goes on or ends at the next character. -/
theorem identifiersFrom_begun (begun : pending ≠ []) (c : Char) (text : List Char) :
    identifiersFrom pending (c :: text) =
      if isIdentifierPart c then identifiersFrom (c :: pending) text
      else String.ofList pending.reverse :: identifiers text := by
  obtain ⟨p, others, rfl⟩ := List.exists_cons_of_ne_nil begun
  rfl

theorem identifiersFrom_end (begun : pending ≠ []) :
    identifiersFrom pending [] = [String.ofList pending.reverse] := by
  obtain ⟨p, others, rfl⟩ := List.exists_cons_of_ne_nil begun
  rfl

/-- What is known of two texts, whatever identifier has begun before them, is known of them with a
character in front. -/
theorem identifiersFrom_cons_congr {first second : List Char} {behind : List String}
    (same : ∀ pending, identifiersFrom pending first = identifiersFrom pending second ++ behind)
    (pending : List Char) (c : Char) :
    identifiersFrom pending (c :: first) = identifiersFrom pending (c :: second) ++ behind := by
  by_cases begun : pending = []
  · obtain rfl := begun
    rw [identifiersFrom, identifiersFrom]
    split
    · exact same [c]
    · exact same []
  · rw [identifiersFrom_begun begun, identifiersFrom_begun begun]
    split
    · exact same (c :: pending)
    · rw [identifiers, same [], List.cons_append, identifiers]

/-- A character that no identifier contains ends the one that has begun. -/
theorem identifiersFrom_append_cons (other : isIdentifierPart c = false) (rest : List Char) :
    identifiersFrom pending (front ++ c :: rest) =
      identifiersFrom pending front ++ identifiers rest := by
  induction front generalizing pending with
  | nil =>
    by_cases begun : pending = []
    · have noStart : isIdentifierStart c = false := by
        rw [Bool.eq_false_iff]
        intro start
        exact absurd (isIdentifierPart_of_isIdentifierStart start) (by rw [other]; decide)
      obtain rfl := begun
      rw [List.nil_append, identifiersFrom, identifiersFrom, noStart, if_neg Bool.false_ne_true]
      rfl
    · rw [List.nil_append, identifiersFrom_begun begun, other, if_neg Bool.false_ne_true,
        identifiersFrom_end begun, List.singleton_append]
  | cons d front ih => exact identifiersFrom_cons_congr (fun _ ↦ ih) pending d

theorem identifiers_append_cons (other : isIdentifierPart c = false) (rest : List Char) :
    identifiers (front ++ c :: rest) = identifiers front ++ identifiers rest :=
  identifiersFrom_append_cons other rest

theorem identifiers_cons (other : isIdentifierPart c = false) (rest : List Char) :
    identifiers (c :: rest) = identifiers rest := by
  rw [← List.nil_append (c :: rest), identifiers_append_cons other]
  rfl

/-- The backslashes of a string literal change no identifier in it. -/
theorem identifiersFrom_escape (text : List Char) :
    identifiersFrom pending (escape text) = identifiersFrom pending text := by
  induction text generalizing pending with
  | nil => rfl
  | cons d text ih =>
    by_cases special : d = '"' ∨ d = '\\'
    -- The backslash ends an identifier that the character behind it would have ended.
    · have other : isIdentifierPart d = false := by
        rcases special with rfl | rfl
        · decide
        · decide
      rw [escape_cons_special special, ← List.nil_append ('\\' :: _),
        identifiersFrom_append_cons (by decide), identifiers_cons other,
        ← List.nil_append (d :: text), identifiersFrom_append_cons other, identifiers, ih,
        identifiers]
    · have same (pending : List Char) :
          identifiersFrom pending (escape text) = identifiersFrom pending text ++ [] := by
        rw [ih, List.append_nil]
      rw [escape_cons_plain special, identifiersFrom_cons_congr same, List.append_nil]

/-- An identifier that has begun runs to the end of a text of its characters. -/
theorem identifiersFrom_run {run : List Char} (parts : ∀ c ∈ run, isIdentifierPart c = true)
    (begun : pending ≠ []) :
    identifiersFrom pending run = [String.ofList (pending.reverse ++ run)] := by
  induction run generalizing pending with
  | nil => rw [identifiersFrom_end begun, List.append_nil]
  | cons c run ih =>
    obtain ⟨here, later⟩ := List.forall_mem_cons.mp parts
    rw [identifiersFrom_begun begun, if_pos here, ih later (List.cons_ne_nil _ _),
      List.reverse_cons, List.append_assoc, List.singleton_append]

/-- An identifier is the only one in its text. -/
theorem identifiers_identifier (name : Identifier) : identifiers name.chars = [name.string] := by
  obtain ⟨first, others, same, start, parts⟩ := name.exists_chars
  rw [Identifier.string, same, identifiers, identifiersFrom, if_pos start,
    identifiersFrom_run parts (List.cons_ne_nil _ _), List.reverse_singleton,
    List.singleton_append]

/-- A text in which no identifier begins has none. -/
theorem identifiers_eq_nil {text : List Char} (none : ∀ c ∈ text, isIdentifierStart c = false) :
    identifiers text = [] := by
  rw [identifiers]
  induction text with
  | nil => rfl
  | cons d text ih =>
    obtain ⟨here, later⟩ := List.forall_mem_cons.mp none
    rw [identifiersFrom, here, if_neg Bool.false_ne_true, ih later]

end Identifiers

/-! ## Constructed colors as items -/

/-- What a constructed color names is the last identifier in its text. -/
theorem token?_constructedText (inner : List Char) :
    token? (constructedText inner) = some ((identifiers inner).getLast?.getD "Color") := by
  have noToken : (dotToken? (constructedText inner)).or (typeToken? (constructedText inner)) =
      none := rfl
  have text : constructedText inner = "Color".toList ++ '(' :: (inner ++ ')' :: []) := rfl
  have type : identifiers "Color".toList = ["Color"] := by decide
  rw [token?, (trimmed_constructedText inner).trim_eq, noToken, Option.none_or, text,
    identifiers_append_cons (by decide), identifiers_append_cons (by decide), type,
    List.getLast?_append, show identifiers [] = [] from rfl, List.append_nil]
  cases (identifiers inner).getLast? with
  | none => rfl
  | some last => rfl

/-- A color in a list is not a string literal. -/
theorem isQuoted_constructedText (inner : List Char) :
    isQuoted (constructedText inner) = false := by
  rw [isQuoted, (trimmed_constructedText inner).trim_eq]
  rfl

theorem isQuoted_namedText (type : Option TypeName) (name : Identifier) :
    isQuoted (namedText type name) = false := by
  have absent : '"' ∉ namedText type name := fun member ↦
    ne_of_isTokenPart (isTokenPart_namedText type name _ member) (by decide) rfl
  rw [isQuoted, (trimmed_namedText type name).trim_eq]
  split
  · next same => exact absurd (same ▸ List.mem_cons_self) absent
  · rfl

theorem identifiers_literal (name : String) :
    identifiers (literal name) = identifiers name.toList := by
  rw [literal, identifiers_cons (by decide), identifiers_append_cons (by decide), identifiers,
    identifiersFrom_escape]
  exact List.append_nil _

theorem identifiers_numeral (numeral : Numeral) : identifiers numeral.text = [] := by
  apply identifiers_eq_nil
  intro c member
  rcases numeral.mem_text member with rfl | rfl | digit
  · decide
  · decide
  · exact not_isIdentifierStart_of_numeric (.inr digit)

/-- The last identifier among the channels of a color is the label of the last one. -/
theorem getLast?_identifiers_channels (red green blue : Numeral) :
    (identifiers (spelledText
      (channelArguments red green (isValue_numeral blue).isArgument))).getLast? = some "blue" := by
  have shape : ∃ front, spelledText
      (channelArguments red green (isValue_numeral blue).isArgument) =
        front ++ ' ' :: ("blue".toList ++ ':' :: ' ' :: blue.text) := by
    refine ⟨"red: ".toList ++ (red.text ++ (", green: ".toList ++ (green.text ++ [',']))), ?_⟩
    simp [channelArguments, spelledText, SpelledArgument.text, label]
  obtain ⟨front, same⟩ := shape
  have last : identifiers "blue".toList = ["blue"] := by decide
  -- No identifier stands behind the last label, whatever the numeral is.
  rw [same, identifiers_append_cons (by decide), identifiers_append_cons (by decide), last,
    identifiers_cons (by decide), identifiers_numeral, List.append_nil, List.getLast?_concat]

namespace ColorExpression

/-- The name that a color in a list is read as. -/
def stopName : ColorExpression → String
  | named _ name => name.string
  | asset name => (identifiers name.toList).getLast?.getD "Color"
  | mixed _ _ _ => "blue"

/-- A color in a list is read as a name. -/
theorem item?_text (color : ColorExpression) : item? color.text = some color.stopName := by
  cases color with
  | named type name =>
    have text : (named type name).text = namedText type name := rfl
    rw [text, item?, isQuoted_namedText, if_neg Bool.false_ne_true, token?_namedText]
    rfl
  | asset name =>
    have text : (asset name).text = constructedText (literal name) := rfl
    rw [text, item?, isQuoted_constructedText, if_neg Bool.false_ne_true, token?_constructedText,
      identifiers_literal]
    rfl
  | mixed red green blue =>
    rw [text_mixed, item?, isQuoted_constructedText, if_neg Bool.false_ne_true,
      token?_constructedText, getLast?_identifiers_channels]
    rfl

end ColorExpression

/-! ## Lists of colors -/

/-- Colors with commas between them. -/
def colorItems (colors : List ColorExpression) : List Char :=
  slotsText (colors.map fun color ↦ .plain color.operand)

/-- A list of colors as it is written. -/
def colorListText (colors : List ColorExpression) : List Char :=
  '[' :: (colorItems colors ++ [']'])

section Lists

variable {colors : List ColorExpression} {before after : List Char}

theorem elementItems_colorItems (colors : List ColorExpression) :
    elementItems (colorItems colors) = colors.map ColorExpression.stopName := by
  rw [elementItems, colorItems, slotsText, trimmedParts_spelledText]
  induction colors with
  | nil => rfl
  | cons color colors ih =>
    show (color.text :: _).filterMap item? = _
    rw [List.filterMap_cons_some color.item?_text, ih, List.map_cons]

theorem balanced_colorItems {opening closing : Char}
    (between : Balanced opening closing [',', ' '])
    (each : ∀ color ∈ colors, Balanced opening closing color.text) :
    Balanced opening closing (colorItems colors) := by
  induction colors with
  | nil => exact balanced_nil
  | cons color colors ih =>
    obtain ⟨here, later⟩ := List.forall_mem_cons.mp each
    cases colors with
    | nil => exact here
    | cons second colors => exact here.append (between.append (ih later))

/-- The first list of a text is read as the names of its colors. -/
theorem firstList?_colorListText (first : '[' ∉ before)
    (brackets : ∀ color ∈ colors, Balanced '[' ']' color.text) :
    firstList? (before ++ (colorListText colors ++ after)) =
      some (colors.map ColorExpression.stopName) := by
  have inside : Balanced '[' ']' (colorItems colors) :=
    balanced_colorItems (balanced_of_all (by decide)) brackets
  rw [colorListText, List.cons_append, List.append_assoc, List.singleton_append, firstList?,
    between?, splitFirst?_append first, Option.bind_some, inside.splitClosing?_eq (by decide),
    Option.map_some, Option.map_some, elementItems_colorItems]

end Lists

/-! ## Gradients -/

/-- What a gradient paint is called by. -/
inductive GradientForm where
  | linear
  | radial
  | angular
  | linearCase
  | radialCase

namespace GradientForm

/-- The type or the enumeration case that stands in front of the arguments of a gradient. -/
def callee : GradientForm → Callee
  | linear => .type ⟨"LinearGradient".toList, rfl⟩
  | radial => .type ⟨"RadialGradient".toList, rfl⟩
  | angular => .type ⟨"AngularGradient".toList, rfl⟩
  | linearCase => .dot ⟨"linearGradient".toList, rfl⟩
  | radialCase => .dot ⟨"radialGradient".toList, rfl⟩

/-- A gradient with the text of its arguments. -/
def text (form : GradientForm) (inner : List Char) : List Char :=
  form.callee.chars ++ '(' :: (inner ++ [')'])

variable (form : GradientForm) {inner : List Char}

theorem trimmed_text (inner : List Char) : Trimmed (form.text inner) := by
  have front : Trimmed form.callee.chars := trimmed_of_forall fun c member ↦
    not_isBlank_of_isTokenPart (form.callee.isTokenPart_chars c member)
  exact front.append form.callee.chars_ne_nil
    (trimmed_enclosed inner (by decide) (by decide) : Trimmed ('(' :: (inner ++ [')']))).last

theorem isGradient_text (inner : List Char) : isGradient (form.text inner) = true := by
  have trimmed := form.trimmed_text inner
  unfold isGradient isLinearGradient isRadialGradient
  rw [trimmed.trim_eq]
  cases form
  all_goals rfl

end GradientForm

/-- The names of the colors of a gradient. -/
def stops? : Paint → Option (List String)
  | .linearGradient colors _ _ => some colors
  | .radialGradient colors => some colors
  | _ => none

/-- A gradient has the stops that the first list of its arguments names. -/
theorem exists_paint?_text (form : GradientForm) {inner : List Char} {names : List String}
    (parentheses : Balanced '(' ')' inner) (listed : firstList? inner = some names) :
    ∃ paint, paint? (form.text inner) = some paint ∧ stops? paint = some names := by
  refine ⟨Call.gradient (form.text inner), ?_, ?_⟩
  · rw [paint?, (form.trimmed_text inner).trim_eq, if_pos (form.isGradient_text inner)]
  · have arguments : callInner? (form.text inner) = some inner :=
      callInner?_chars form.callee parentheses
    rw [Call.gradient, arguments, Option.getD_some, listed]
    split
    · rfl
    · rfl

/-- The stops are the last part of the style-sheet text of a gradient. -/
theorem exists_style_stops {paint : Paint} {names : List String}
    (stops : stops? paint = some names) :
    ∃ front, Style.paint paint = front ++ Style.colorStops names ++ ")" := by
  cases paint with
  | linearGradient colors start finish =>
    obtain rfl := Option.some.inj stops
    exact ⟨_, rfl⟩
  | radialGradient colors =>
    obtain rfl := Option.some.inj stops
    exact ⟨_, rfl⟩
  | _ => cases stops

/-! ## Stops and paints of one color -/

theorem color_of_isHexColor {name : String} (isHex : Style.isHexColor name = true) :
    Style.color name = name := by
  unfold Style.color
  split
  all_goals first
    | rw [if_pos isHex]
    | exact absurd isHex (by decide)

theorem isSome_digitOf?_hexByte {n : Nat} (byte : n < 256) :
    ∀ c ∈ hexByte n, (digitOf? 16 c).isSome = true := by
  have digit : ∀ d : Fin 16, (digitOf? 16 (Nat.digitChar d)).isSome = true := by decide
  have high : n / 16 < 16 := by omega
  have low : n % 16 < 16 := by omega
  exact List.forall_mem_cons.mpr
    ⟨digit ⟨n / 16, high⟩, List.forall_mem_singleton.mpr (digit ⟨n % 16, low⟩)⟩

/-- The name of a mixed color is its style-sheet text. -/
theorem isHexColor_mixedName (red green blue : Numeral) :
    Style.isHexColor (mixedName red green blue) = true := by
  have channel (value : Float) : ∀ c ∈ hexByte (channelByte value), (digitOf? 16 c).isSome = true :=
    isSome_digitOf?_hexByte (UInt8.toNat_lt _)
  have digits := List.forall_mem_append.mpr
    ⟨List.forall_mem_append.mpr ⟨channel red.value, channel green.value⟩, channel blue.value⟩
  rw [Style.isHexColor, mixedName, String.toList_ofList]
  show (List.all _ _ && _ && _) = true
  rw [List.all_eq_true.mpr digits]
  rfl

namespace ColorExpression

/-- Whether a color has the same style-sheet text as a stop of a gradient and by itself. -/
def IsKept : ColorExpression → Prop
  | named _ _ => True
  | asset name => Style.color ((identifiers name.toList).getLast?.getD "Color") = Style.color name
  | mixed red green blue => mixedName red green blue = "#007aff"

/-- The stop that a color becomes is the color itself for the colors that are kept, and for no
others. -/
theorem stop_eq_paint_iff (color : ColorExpression) {name : String}
    (read : paint? color.text = some (.color name none)) :
    Style.color color.stopName = Style.paint (.color name none) ↔ color.IsKept := by
  have plain : Style.paint (.color name none) = Style.color name := rfl
  rw [plain]
  cases color with
  | named type case =>
    obtain ⟨rfl, -⟩ := paint?_named type case read
    exact iff_of_true rfl trivial
  | asset asset =>
    have alone := (Spelling.paint?_asset asset).symm.trans read
    obtain ⟨rfl, -⟩ := Paint.color.inj (Option.some.inj alone)
    exact Iff.rfl
  | mixed red green blue =>
    have alone := (paint?_mixed red green blue).symm.trans read
    obtain ⟨rfl, -⟩ := Paint.color.inj (Option.some.inj alone)
    rw [color_of_isHexColor (isHexColor_mixedName red green blue), eq_comm]
    exact Iff.rfl

/-- An asset is kept when its name is an identifier. -/
theorem isKept_asset (name : Identifier) : (asset name.string).IsKept := by
  rw [IsKept, Identifier.string, String.toList_ofList, identifiers_identifier]
  rfl

end ColorExpression

/-- The stops of a gradient whose first list holds some colors, whatever other arguments stand
around it.  Each stop is the color of one name: that of the enumeration case, the last identifier in
the name of the asset, or `blue` for a color mixed from channels.  A gradient view reads its colors
the same way.  A stop has the style-sheet text of the paint that its color is by itself for
enumeration cases, for assets when the last identifier of the name stands for the same color, and
for mixed colors when they are the named blue. -/
theorem gradient_stops (form : GradientForm) (colors : List ColorExpression)
    {before after : List Char} (first : '[' ∉ before)
    (brackets : ∀ color ∈ colors, Balanced '[' ']' color.text)
    (parentheses : Balanced '(' ')' (before ++ (colorListText colors ++ after))) :
    (∃ paint front, paint? (form.text (before ++ (colorListText colors ++ after))) = some paint ∧
      stops? paint = some (colors.map ColorExpression.stopName) ∧
      (colors ≠ [] → Style.paint paint =
        front ++ ", ".intercalate (colors.map fun color ↦ Style.color color.stopName) ++ ")")) ∧
    (∀ arguments argument,
      (Arguments.labeled? arguments "colors").or (arguments.labeled? "gradient") = some argument →
        argument.text = before ++ (colorListText colors ++ after) →
          gradientColors arguments =
            ("colors", some (.list (colors.map ColorExpression.stopName)))) ∧
    ∀ color ∈ colors, ∀ name, paint? color.text = some (.color name none) →
      (Style.color color.stopName = Style.paint (.color name none) ↔ color.IsKept) := by
  have listed : firstList? (before ++ (colorListText colors ++ after)) = _ :=
    firstList?_colorListText first brackets
  refine ⟨?paint, ?view, fun color _ name read ↦ color.stop_eq_paint_iff read⟩
  case paint =>
    obtain ⟨paint, isPaint, stops⟩ := exists_paint?_text form parentheses listed
    obtain ⟨front, shown⟩ := exists_style_stops stops
    refine ⟨paint, front, isPaint, stops, fun nonempty ↦ ?_⟩
    have several : (colors.map ColorExpression.stopName).isEmpty = false := by
      rw [List.isEmpty_map]
      exact List.isEmpty_eq_false_iff.mpr nonempty
    rw [shown, Style.colorStops, several, if_neg Bool.false_ne_true, List.map_map]
    rfl
  case view =>
    intro arguments argument found text
    rw [gradientColors, found, Option.bind_some, text, listed, Option.map_some]

/-- An asset whose name ends in that of another color. -/
def skyBlue : ColorExpression :=
  .asset "sky-blue"

theorem gradient_stops_skyBlue :
    (∃ paint,
      paint? "LinearGradient(colors: [Color.blue, Color(\"sky-blue\")], startPoint: .top)".toList =
          some paint ∧
        stops? paint = some ["blue", "blue"]) ∧
      ColorExpression.typedBlue.IsKept ∧ ¬skyBlue.IsKept := by
  have brackets : ∀ color ∈ [ColorExpression.typedBlue, skyBlue], Balanced '[' ']' color.text :=
    List.forall_mem_cons.mpr ⟨balanced_of_all (by decide),
      List.forall_mem_singleton.mpr (balanced_of_all (by decide))⟩
  have parentheses : Balanced '(' ')' ("colors: ".toList ++
      (colorListText [ColorExpression.typedBlue, skyBlue] ++ ", startPoint: .top".toList)) := by
    have front : Balanced '(' ')' "colors: [Color.blue, Color".toList := balanced_of_all (by decide)
    have name : Balanced '(' ')' (literal "sky-blue") := balanced_of_all (by decide)
    have back : Balanced '(' ')' "], startPoint: .top".toList := balanced_of_all (by decide)
    exact front.append ((name.enclosed (by decide)).append back)
  obtain ⟨⟨paint, -, read, stops, -⟩, -, kept⟩ :=
    gradient_stops .linear [ColorExpression.typedBlue, skyBlue] (by decide) brackets parentheses
  have changed := kept skyBlue (by simp) "sky-blue" (Spelling.paint?_asset "sky-blue")
  exact ⟨⟨paint, read, stops⟩, trivial, fun same ↦ absurd (changed.mpr same) (by decide)⟩

/-- A stop can be another color than the one that is written. -/
theorem skyBlue_stop :
    ¬ ∀ (form : GradientForm) (colors : List ColorExpression) (paint : Paint)
        (names : List String),
      paint? (form.text ("colors: ".toList ++ colorListText colors)) = some paint →
      stops? paint = some names →
        ∀ (i : Nat) (color : ColorExpression) (name stop : String), colors[i]? = some color →
          names[i]? = some stop → paint? color.text = some (.color name none) →
            Style.color stop = Style.paint (.color name none) := by
  intro agree
  have same := agree .linear [skyBlue] (.linearGradient ["blue"] none none) ["blue"] rfl rfl 0
    skyBlue "sky-blue" "blue" rfl rfl (Spelling.paint?_asset "sky-blue")
  exact absurd same (by decide)

end ViewPreview.Spelling
