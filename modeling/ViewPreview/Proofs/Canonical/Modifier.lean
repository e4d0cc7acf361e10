import ViewPreview.Call.Modifier
import ViewPreview.Proofs.Call.Literal

/-!
# Canonical Modifiers

The modifiers whose arguments need no parentheses: flags, decimal numbers, colors that are
enumeration cases, and paddings.  Each has one canonical argument list, and interpreting that list
gives the arguments of the modifier back.
-/

namespace ViewPreview.Canonical

open ViewPreview.Text ViewPreview.Call ViewPreview.Number

/-! ## Colors -/

/-- The name of a color.  Names of materials, and names that begin like that of a gradient, stand
for other paints. -/
structure ColorName where
  name : Identifier
  not_material : materials.contains name.string = false
  not_gradient : isGradient (caseText name) = false

/-- The paint that a color name stands for. -/
def ColorName.paint (color : ColorName) : Paint :=
  .color color.name.string none

/-- An opacity has a parenthesis. -/
theorem findOpacityNumeral?_eq_none {text : List Char} (flat : '(' ∉ text) :
    findOpacityNumeral? text = none := by
  induction text with
  | nil => rfl
  | cons c text ih =>
    have here : dropStart? ".opacity(".toList (c :: text) = none :=
      dropStart?_eq_none (by decide) flat
    have later := ih fun member ↦ flat (List.mem_cons_of_mem c member)
    rw [findOpacityNumeral?, here, later]
    rfl

theorem paint?_caseText (color : ColorName) : paint? (caseText color.name) = some color.paint := by
  have trimmed := (trimmed_caseText color.name).trim_eq
  have noOpacity : opacity? (caseText color.name) = none := by
    rw [opacity?, findOpacityNumeral?_eq_none]
    · rfl
    · intro member
      exact ne_of_isTokenPart (isTokenPart_caseText color.name _ member) (by decide) rfl
  have unconstructed : dropStart? "Color(".toList (caseText color.name) = none :=
    dropStart?_cons_eq_none (by decide)
  have named : namedPaint? (caseText color.name) = some color.paint := by
    rw [namedPaint?, token?_caseText, Option.map_some, color.not_material,
      if_neg Bool.false_ne_true, noOpacity]
    rfl
  rw [paint?, trimmed, color.not_gradient, if_neg Bool.false_ne_true, unconstructed, named]
  rfl

/-! ## Modifiers -/

/-- The name of an edge set as an identifier. -/
def edgeName (edge : Edge) : Identifier where
  chars := edge.name.toList
  isIdentifier_chars := by cases edge <;> decide

/-- A label of an argument. -/
def label (name : String) (isIdentifier_name : isIdentifier name.toList = true) : Identifier :=
  ⟨name.toList, isIdentifier_name⟩

@[simp] theorem string_label (name : String) (isIdentifier_name : isIdentifier name.toList = true) :
    (label name isIdentifier_name).string = name :=
  String.ofList_toList

/-- A modifier without parentheses in its arguments. -/
inductive Adjustment where
  | flag (name : Identifier) (isFlag : category name.string = .flag) (value : Bool)
  | number (name : Identifier)
      (isNumber : category name.string = .number ∨ category name.string = .badge)
      (value : Numeral)
  | paint (name : Identifier)
      (isPaint : category name.string = .paint ∨ category name.string = .background ∨
        category name.string = .overlay)
      (color : ColorName)
  | padding (edges : List Edge) (nonempty : edges ≠ []) (amount : Option Numeral)

namespace Adjustment

/-- The name of a modifier. -/
def name : Adjustment → Identifier
  | .flag name _ _ => name
  | .number name _ _ => name
  | .paint name _ _ => name
  | .padding _ _ _ => ⟨"padding".toList, by decide⟩

/-- The arguments that a modifier is written with.  A flag that is set has none. -/
def written : Adjustment → List WrittenArgument
  | .flag _ _ value => if value then [] else [.plain (isValue_identifier (boolName value))]
  | .number _ _ value => [.plain (isValue_numeral value)]
  | .paint _ _ color => [.plain (isValue_caseText color.name)]
  | .padding edges _ amount =>
    .plain (isValue_caseListText (edges.map edgeName)) ::
      amount.toList.map fun amount ↦ .plain (isValue_numeral amount)

/-- What the arguments of a modifier mean. -/
def value : Adjustment → ModifierArguments View
  | .flag _ _ value => .flag value
  | .number _ _ value => .number value.value
  | .paint _ _ color => .paint color.paint
  | .padding edges _ amount => .padding ⟨edges, amount.map Numeral.value⟩

/-- A modifier as part of a view. -/
def modifier (adjustment : Adjustment) : Modifier View :=
  ⟨adjustment.name.string, adjustment.value⟩

/-- The arguments that are read. -/
def arguments (adjustment : Adjustment) : Arguments :=
  { values := adjustment.written.map WrittenArgument.argument }

end Adjustment

/-! ## Numbers -/

/-- A numeral begins with a character that no other value begins with. -/
theorem head_numeral_ne (numeral : Numeral) {c : Char} {rest : List Char}
    (same : numeral.text = c :: rest) {d : Char} (other : d ≠ '-' ∧ isAsciiDigit d = false) :
    c ≠ d := by
  obtain ⟨first, others, written, numeric⟩ := numeral.text_eq_cons
  rw [written] at same
  obtain ⟨rfl, -⟩ := List.cons.inj same
  rintro rfl
  rcases numeric with minus | digit
  · exact other.1 minus
  · rw [other.2] at digit
    exact Bool.noConfusion digit

/-- A numeral does not begin with a word that begins otherwise. -/
theorem startsWith_numeral {word : String} {d : Char} {others : List Char}
    (begins : word.toList = d :: others) (other : d ≠ '-' ∧ isAsciiDigit d = false)
    (numeral : Numeral) : startsWith word numeral.text = false := by
  obtain ⟨c, rest, written, -⟩ := numeral.text_eq_cons
  rw [startsWith_eq_isSome, begins, written,
    dropStart?_cons_eq_none (head_numeral_ne numeral written other).symm, Option.isSome_none]

theorem trim_numeral (numeral : Numeral) : trim numeral.text = numeral.text :=
  (isValue_numeral numeral).trimmed.trim_eq

/-! ## One argument without a label -/

/-- An argument list of one argument without a label. -/
def single (value : List Char) : Arguments :=
  { values := [⟨none, value, none⟩] }

section Single

variable (value : List Char)

@[simp] theorem first?_single : (single value).first? = some ⟨none, value, none⟩ :=
  rfl

@[simp] theorem firstUnlabeled?_single :
    (single value).firstUnlabeled? = some ⟨none, value, none⟩ :=
  rfl

@[simp] theorem labeled?_single (label : String) : (single value).labeled? label = none :=
  rfl

@[simp] theorem labeledToken?_single (label : String) : (single value).labeledToken? label = none :=
  rfl

@[simp] theorem content?_single : content? (single value) = none :=
  rfl

end Single

/-! ## Reading the arguments of a modifier -/

theorem number?_numeral (name : String) (numeral : Numeral) :
    number? name (single numeral.text) = some (.number numeral.value) := by
  obtain ⟨c, rest, written, -⟩ := numeral.text_eq_cons
  have notNil : (trim numeral.text == "nil".toList) = false := by
    rw [trim_numeral, written, beq_eq_false_iff_ne]
    intro same
    exact head_numeral_ne numeral written (d := 'n') (by decide) (List.cons.inj same).1
  rw [number?, first?_single, Option.any_some, notNil, Bool.and_false,
    if_neg Bool.false_ne_true, labeled?_single, labeled?_single, Option.isSome_none,
    Bool.or_self, Bool.and_false, if_neg Bool.false_ne_true, Option.bind_some,
    numeral.first?_text]
  rfl

theorem badge?_numeral (numeral : Numeral) :
    badge? (single numeral.text) = some (.number numeral.value) := by
  obtain ⟨c, rest, written, -⟩ := numeral.text_eq_cons
  have unquoted : Argument.isQuoted ⟨none, numeral.text, none⟩ = false := by
    have other : c ≠ '"' := head_numeral_ne numeral written (by decide)
    rw [Argument.isQuoted, isQuoted, trim_numeral, written]
    split
    · next heq => exact absurd (List.cons.inj heq).1 other
    · rfl
  rw [badge?, first?_single, Option.bind_some, unquoted, if_neg Bool.false_ne_true,
    numeral.first?_text]
  rfl

theorem background?_caseText (color : ColorName) :
    background? (single (caseText color.name)) = some (.paint color.paint) := by
  have noClosure : View.single? .zStack (single (caseText color.name)).trailing = none := rfl
  simp only [background?, noClosure, first?_single, Option.bind_some, color.not_gradient,
    Bool.false_eq_true, if_false, paint?_caseText, Option.map_some]

theorem overlay?_caseText (color : ColorName) :
    overlay? (single (caseText color.name)) = some (.paint color.paint) := by
  rw [overlay?, content?_single, first?_single, Option.bind_some, paint?_caseText]
  rfl

/-! ## Paddings -/

theorem startsWith_singleton (c d : Char) (rest : List Char) :
    startsWith (String.singleton c) (d :: rest) = (c == d) := by
  rw [startsWith, String.toList_singleton]
  exact Bool.and_true _

theorem filterMap_ofName? (edges : List Edge) :
    ((edges.map edgeName).map Identifier.string).filterMap Edge.ofName? = edges := by
  induction edges with
  | nil => rfl
  | cons edge edges ih =>
    have named : Edge.ofName? (edgeName edge).string = some edge := by
      cases edge <;> decide
    rw [List.map_cons, List.map_cons, List.filterMap_cons_some named, ih]

theorem addPadding_edges (edges : List Edge) (padding : Padding) :
    addPadding padding ⟨none, caseListText (edges.map edgeName), none⟩ =
      some { padding with edges := padding.edges ++ edges } := by
  have starts : startsWith "[" (caseListText (edges.map edgeName)) = true :=
    startsWith_singleton '[' '[' _
  rw [addPadding, (isValue_caseListText _).trimmed.trim_eq, starts, if_pos rfl,
    listItems?_caseListText, Option.getD_some, filterMap_ofName?]

theorem addPadding_amount (numeral : Numeral) (padding : Padding) :
    addPadding padding ⟨none, numeral.text, none⟩ =
      some { padding with amount := some numeral.value } := by
  have noList : startsWith "[" numeral.text = false := startsWith_numeral rfl (by decide) numeral
  have noCase : startsWith "." numeral.text = false := startsWith_numeral rfl (by decide) numeral
  rw [addPadding, trim_numeral, noList, if_neg Bool.false_ne_true, noCase,
    if_neg Bool.false_ne_true, numeral.first?_text]
  rfl

/-- A padding is read back from its arguments. -/
theorem padding?_written (edges : List Edge) (nonempty : edges ≠ []) (amount : Option Numeral) :
    padding? (Adjustment.padding edges nonempty amount).arguments =
      some ⟨edges, amount.map Numeral.value⟩ := by
  have someEdge : edges.isEmpty = false := by
    rw [Bool.eq_false_iff]
    intro empty
    exact nonempty (List.isEmpty_iff.mp empty)
  cases amount with
  | none =>
    show ((([⟨none, caseListText (edges.map edgeName), none⟩] : List Argument).foldlM addPadding
      ⟨[], none⟩).map fun padding ↦ _) = _
    rw [List.foldlM_cons, addPadding_edges]
    show some (if edges.isEmpty then _ else (⟨edges, none⟩ : Padding)) = _
    rw [someEdge]
    rfl
  | some amount =>
    show ((([⟨none, caseListText (edges.map edgeName), none⟩, ⟨none, amount.text, none⟩] :
      List Argument).foldlM addPadding ⟨[], none⟩).map fun padding ↦ _) = _
    rw [List.foldlM_cons, addPadding_edges]
    show (([(⟨none, amount.text, none⟩ : Argument)].foldlM addPadding
      (⟨edges, none⟩ : Padding)).map fun padding ↦ _) = _
    rw [List.foldlM_cons, addPadding_amount]
    show some (if edges.isEmpty then _ else (⟨edges, some amount.value⟩ : Padding)) = _
    rw [someEdge]
    rfl

/-! ## Interpretation -/

theorem flag_arguments (name : Identifier) (isFlag : category name.string = .flag) (value : Bool) :
    flag (Adjustment.flag name isFlag value).arguments = value := by
  cases value with
  | false => rfl
  | true => rfl

/-- Interpreting the arguments that a modifier is written with gives its arguments back. -/
theorem interpret_arguments (adjustment : Adjustment) :
    interpret adjustment.name.string adjustment.arguments = .ok adjustment.value := by
  cases adjustment with
  | flag name isFlag value =>
    show interpret name.string _ = _
    simp only [interpret, isFlag, flag_arguments, Adjustment.value]
  | number name isNumber value =>
    show interpret name.string (single value.text) = _
    rcases isNumber with isNumber | isBadge
    · simp only [interpret, isNumber, number?_numeral, Adjustment.value]
    · simp only [interpret, isBadge, badge?_numeral, Adjustment.value]
  | paint name isPaint color =>
    show interpret name.string (single (caseText color.name)) = _
    rcases isPaint with isPaint | isBackground | isOverlay
    · simp only [interpret, isPaint, first?_single, Option.bind_some, paint?_caseText,
        Option.map_some, Adjustment.value]
    · simp only [interpret, isBackground, background?_caseText, Adjustment.value]
    · simp only [interpret, isOverlay, overlay?_caseText, Adjustment.value]
  | padding edges nonempty amount =>
    have isPadding : category "padding" = .padding := rfl
    show interpret "padding" _ = _
    simp only [interpret, isPadding, padding?_written, Option.map_some, Adjustment.value]

end ViewPreview.Canonical
