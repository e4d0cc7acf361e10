import ViewPreview.Proofs.Spelling.Literal
import ViewPreview.Proofs.Text.Occurrence
import ViewPreview.Proofs.View.Nesting

/-!
# Interpolations in String Literals

A string literal as a row of pieces: plain characters, escaped quotes, escaped backslashes and
interpolations of words.  Reading it undoes the escapes and leaves the interpolations as they are
written.  Filling in a row of a repetition then goes by the characters that are left, so that a
backslash which was escaped interpolates the row variable as well when the name of the variable
follows it in parentheses.  A literal is filled in as it is meant exactly when it has no such place,
or when the value is the interpolation itself.
-/

namespace ViewPreview.Spelling

open ViewPreview.Text ViewPreview.Call

/-! ## Pieces -/

/-- A piece of a string literal. -/
inductive Piece where
  | plain (c : Char) (unescaped : ¬(c = '"' ∨ c = '\\'))
  | quote
  | backslash
  | interpolation (name : Word)

/-- The name of a variable in the parentheses of its interpolation. -/
def parenthesized (name : Word) : List Char :=
  '(' :: (name.chars ++ [')'])

/-- The interpolation of a variable. -/
def mention (name : Word) : List Char :=
  '\\' :: parenthesized name

/-- A piece as it is written. -/
def Piece.written : Piece → List Char
  | .plain c _ => [c]
  | .quote => ['\\', '"']
  | .backslash => ['\\', '\\']
  | .interpolation name => mention name

/-- What a piece stands for. -/
def Piece.meaning : Piece → List Char
  | .plain c _ => [c]
  | .quote => ['"']
  | .backslash => ['\\']
  | .interpolation name => mention name

/-- What a piece stands for in a row in which a variable has a value. -/
def Piece.filled (name : Word) (value : List Char) : Piece → List Char
  | .interpolation other => if other.chars = name.chars then value else mention other
  | piece => piece.meaning

/-- The string literal made of some pieces. -/
def literalOf (pieces : List Piece) : List Char :=
  '"' :: (pieces.flatMap Piece.written ++ ['"'])

/-- What remains of pieces that begin with the plain characters of a text. -/
def dropSpelled? : (text : List Char) → List Piece → Option (List Piece)
  | [], pieces => some pieces
  | c :: text, .plain d _ :: pieces => if c = d then dropSpelled? text pieces else none
  | _, _ => none

theorem length_le_of_dropSpelled? {text : List Char} {pieces rest : List Piece}
    (found : dropSpelled? text pieces = some rest) : rest.length ≤ pieces.length := by
  fun_induction dropSpelled? text pieces with
  | case1 => cases found; exact Nat.le_refl _
  | case2 _ _ _ _ ih => exact Nat.le_succ_of_le (ih found)
  | case3 => cases found
  | case4 => cases found

/-- The pieces with an interpolation of a variable in each place where an escaped backslash and the
plain characters behind it spell one. -/
def unmask (name : Word) : List Piece → List Piece
  | [] => []
  | .backslash :: pieces =>
    match _found : dropSpelled? (parenthesized name) pieces with
    | some rest => .interpolation name :: unmask name rest
    | none => .backslash :: unmask name pieces
  | piece :: pieces => piece :: unmask name pieces
termination_by pieces => pieces.length
decreasing_by
  · exact Nat.lt_succ_of_le (length_le_of_dropSpelled? _found)
  · exact Nat.lt_succ_self _
  · exact Nat.lt_succ_self _

/-- Whether an escaped backslash is followed by plain characters that spell the name of a variable
in parentheses. -/
def Masks (name : Word) (pieces : List Piece) : Prop :=
  ∃ front spelled rest : List Piece, pieces = front ++ .backslash :: (spelled ++ rest) ∧
    spelled.flatMap Piece.written = parenthesized name

/-! ## Reading -/

theorem not_special_of_isWord {c : Char} (word : isWord c = true) : ¬(c = '"' ∨ c = '\\') := by
  rintro (rfl | rfl)
  · exact absurd word (by decide)
  · exact absurd word (by decide)

theorem plain_parenthesized (name : Word) :
    ∀ c ∈ parenthesized name, ¬(c = '"' ∨ c = '\\') := by
  intro c member
  rcases List.mem_cons.mp member with rfl | member
  · decide
  · rcases List.mem_append.mp member with inside | closing
    · exact not_special_of_isWord (name.isWord_of_mem c inside)
    · rw [List.mem_singleton.mp closing]
      decide

theorem unescape_append_plain {text : List Char} (plain : ∀ c ∈ text, ¬(c = '"' ∨ c = '\\'))
    (rest : List Char) : unescape (text ++ rest) = text ++ unescape rest := by
  induction text with
  | nil => rfl
  | cons c text ih =>
    obtain ⟨here, later⟩ := List.forall_mem_cons.mp plain
    rw [List.cons_append, unescape_cons_plain fun backslash ↦ here (.inr backslash), ih later]
    rfl

theorem unescape_mention (name : Word) (rest : List Char) :
    unescape (mention name ++ rest) = mention name ++ unescape rest := by
  have opening : unescape ('\\' :: '(' :: (name.chars ++ [')'] ++ rest)) =
      '\\' :: unescape (parenthesized name ++ rest) := by
    rw [unescape]
    · rfl
    · exact fun _ _ other ↦ absurd (List.cons.inj other).1 (by decide)
    · exact fun _ _ other ↦ absurd (List.cons.inj other).1 (by decide)
  exact opening.trans (congrArg _ (unescape_append_plain (plain_parenthesized name) rest))

theorem unescape_written (pieces : List Piece) :
    unescape (pieces.flatMap Piece.written) = pieces.flatMap Piece.meaning := by
  induction pieces with
  | nil => rfl
  | cons piece pieces ih =>
    rw [List.flatMap_cons, List.flatMap_cons, ← ih]
    cases piece with
    | plain c unescaped =>
      exact unescape_cons_plain (fun backslash ↦ unescaped (.inr backslash)) _
    | quote => exact unescape.eq_2 _
    | backslash => exact unescape.eq_3 _
    | interpolation name => exact unescape_mention name _

theorem literalContent_append_plain {text rest : List Char}
    (plain : ∀ c ∈ text, ¬(c = '"' ∨ c = '\\')) (behind : LiteralContent rest) :
    LiteralContent (text ++ rest) := by
  induction text with
  | nil => exact behind
  | cons c text ih =>
    obtain ⟨here, later⟩ := List.forall_mem_cons.mp plain
    exact .plain here (ih later)

theorem literalContent_written (pieces : List Piece) :
    LiteralContent (pieces.flatMap Piece.written) := by
  induction pieces with
  | nil => exact .nil
  | cons piece pieces ih =>
    rw [List.flatMap_cons]
    cases piece with
    | plain c unescaped => exact .plain unescaped ih
    | quote => exact .escaped (by decide) ih
    | backslash => exact .escaped (by decide) ih
    | interpolation name =>
      have later : ∀ c ∈ name.chars ++ [')'], ¬(c = '"' ∨ c = '\\') := fun c member ↦
        plain_parenthesized name c (List.mem_cons_of_mem _ member)
      exact .escaped (by decide) (literalContent_append_plain later ih)

/-- A string literal is read as what its pieces stand for. -/
theorem stringLiteral?_literalOf (pieces : List Piece) :
    stringLiteral? (literalOf pieces) = some (String.ofList (pieces.flatMap Piece.meaning)) := by
  rw [stringLiteral?, literalOf, firstQuoted?,
    (literalContent_written pieces).quotedContent?_append, Option.some_or, Option.map_some,
    unescape_written]

/-! ## Filling in -/

theorem toList_interpolation (name : Word) :
    (View.interpolation name.string).toList = mention name := by
  simp [View.interpolation, Word.string, mention, parenthesized]

/-- One interpolation begins another one only if they are of the same variable. -/
theorem dropStart?_mention_eq_none {name other : Word} (different : other.chars ≠ name.chars)
    (rest : List Char) : dropStart? (mention name) (mention other ++ rest) = none := by
  cases found : dropStart? (mention name) (mention other ++ rest) with
  | none => rfl
  | some behind =>
    have whole := append_of_dropStart? found
    have names : name.chars ++ ')' :: behind = other.chars ++ ')' :: rest := by
      simpa [mention, parenthesized] using whole
    have absent (word : Word) : ')' ∉ word.chars := word.not_mem_chars (by decide)
    have split : splitFirst? ')' (name.chars ++ ')' :: behind) = some (name.chars, behind) :=
      splitFirst?_append (absent name)
    rw [names, splitFirst?_append (absent other)] at split
    exact absurd (congrArg Prod.fst (Option.some.inj split)) different

/-- What pieces stand for begins with a text that has no quotes and backslashes exactly where plain
characters spell it. -/
theorem dropStart?_meaning {text : List Char} (plain : ∀ c ∈ text, ¬(c = '"' ∨ c = '\\'))
    (pieces : List Piece) :
    dropStart? text (pieces.flatMap Piece.meaning) =
      (dropSpelled? text pieces).map (·.flatMap Piece.meaning) := by
  induction text generalizing pieces with
  | nil => rw [dropSpelled?]; rfl
  | cons c text ih =>
    obtain ⟨here, later⟩ := List.forall_mem_cons.mp plain
    cases pieces with
    | nil => rfl
    | cons piece pieces =>
      rw [List.flatMap_cons]
      cases piece with
      | plain d unescaped =>
        rw [Piece.meaning, List.singleton_append, dropStart?, dropSpelled?, ih later]
        split
        · rfl
        · rfl
      | quote => exact dropStart?_cons_eq_none fun quote ↦ here (.inl quote)
      | backslash => exact dropStart?_cons_eq_none fun backslash ↦ here (.inr backslash)
      | interpolation name => exact dropStart?_cons_eq_none fun backslash ↦ here (.inr backslash)

/-- Putting a value for a variable into what pieces stand for fills in the interpolations of the
variable, and the places that spell one behind an escaped backslash with them. -/
theorem replaceFrom_meaning (name : Word) (value : List Char) (pieces : List Piece) :
    replaceFrom (mention name) value 0 (pieces.flatMap Piece.meaning) =
      (unmask name pieces).flatMap (Piece.filled name value) := by
  fun_induction unmask name pieces with
  | case1 => rfl
  | case2 pieces rest found ih =>
    have spelled := dropStart?_meaning (plain_parenthesized name) pieces
    rw [found, Option.map_some] at spelled
    rw [List.flatMap_cons, List.flatMap_cons, Piece.filled, if_pos rfl, ← ih, Piece.meaning,
      ← append_of_dropStart? spelled]
    exact replaceFrom_needle '\\' (parenthesized name) value _
  | case3 pieces found ih =>
    have spelled := dropStart?_meaning (plain_parenthesized name) pieces
    rw [found, Option.map_none] at spelled
    have elsewhere : dropStart? (mention name) ('\\' :: pieces.flatMap Piece.meaning) = none :=
      (if_pos rfl).trans spelled
    rw [List.flatMap_cons, List.flatMap_cons, ← ih]
    exact replaceFrom_cons elsewhere
  | case4 piece pieces notBackslash ih =>
    rw [List.flatMap_cons, List.flatMap_cons, ← ih]
    cases piece with
    | plain c unescaped =>
      exact replaceFrom_cons (dropStart?_cons_eq_none fun backslash ↦
        unescaped (.inr backslash.symm))
    | quote => exact replaceFrom_cons (dropStart?_cons_eq_none (by decide))
    | backslash => exact absurd rfl (notBackslash · )
    | interpolation other =>
      rw [Piece.filled]
      split
      · next same =>
        have equal : mention other = mention name := by rw [mention, parenthesized, same]; rfl
        rw [Piece.meaning, equal]
        exact replaceFrom_needle '\\' (parenthesized name) value _
      · next different =>
        have elsewhere := dropStart?_mention_eq_none different (pieces.flatMap Piece.meaning)
        have behind : '\\' ∉ parenthesized other := fun member ↦
          plain_parenthesized other _ member (.inr rfl)
        exact (replaceFrom_cons elsewhere).trans
          (congrArg _ (replaceFrom_append_of_not_mem behind))

/-! ## Where the filling in is as meant -/

/-- Pieces begin with the plain characters of a text where their beginning is written so. -/
theorem dropSpelled?_eq_some_iff {text : List Char} (plain : ∀ c ∈ text, ¬(c = '"' ∨ c = '\\'))
    {pieces rest : List Piece} :
    dropSpelled? text pieces = some rest ↔
      ∃ spelled, pieces = spelled ++ rest ∧ spelled.flatMap Piece.written = text := by
  constructor
  · intro found
    clear plain
    fun_induction dropSpelled? text pieces with
    | case1 pieces =>
      cases found
      exact ⟨[], rfl, rfl⟩
    | case2 text c unescaped pieces ih =>
      obtain ⟨spelled, rfl, rfl⟩ := ih found
      exact ⟨.plain c unescaped :: spelled, rfl, rfl⟩
    | case3 => cases found
    | case4 => cases found
  · rintro ⟨spelled, rfl, rfl⟩
    induction spelled with
    | nil => rw [List.flatMap_nil, dropSpelled?]; rfl
    | cons piece spelled ih =>
      rw [List.flatMap_cons] at plain
      have later := ih fun c member ↦ plain c (List.mem_append_right _ member)
      cases piece with
      | plain c unescaped =>
        rw [List.flatMap_cons]
        exact (if_pos rfl).trans later
      | quote => exact absurd (.inr rfl) (plain '\\' List.mem_cons_self)
      | backslash => exact absurd (.inr rfl) (plain '\\' List.mem_cons_self)
      | interpolation name => exact absurd (.inr rfl) (plain '\\' List.mem_cons_self)

variable {name : Word} {pieces : List Piece}

theorem masks_cons_iff {piece : Piece} :
    Masks name (piece :: pieces) ↔
      (piece = .backslash ∧ ∃ rest, dropSpelled? (parenthesized name) pieces = some rest) ∨
        Masks name pieces := by
  have spelling {rest : List Piece} : dropSpelled? (parenthesized name) pieces = some rest ↔
      ∃ spelled, pieces = spelled ++ rest ∧ spelled.flatMap Piece.written = parenthesized name :=
    dropSpelled?_eq_some_iff (plain_parenthesized name)
  constructor
  · rintro ⟨front, spelled, rest, whole, spells⟩
    rcases List.cons_eq_append_iff.mp whole with ⟨rfl, here⟩ | ⟨before, rfl, behind⟩
    · obtain ⟨same, rfl⟩ := List.cons.inj here
      exact .inl ⟨same.symm, rest, spelling.mpr ⟨spelled, rfl, spells⟩⟩
    · exact .inr ⟨before, spelled, rest, behind, spells⟩
  · rintro (⟨rfl, rest, found⟩ | ⟨front, spelled, rest, rfl, spells⟩)
    · obtain ⟨spelled, rfl, spells⟩ := spelling.mp found
      exact ⟨[], spelled, rest, rfl, spells⟩
    · exact ⟨piece :: front, spelled, rest, rfl, spells⟩

/-- Pieces are taken as they are where no escaped backslash spells an interpolation. -/
theorem unmask_eq_self_iff : unmask name pieces = pieces ↔ ¬Masks name pieces := by
  fun_induction unmask name pieces with
  | case1 =>
    refine iff_of_true rfl ?_
    rintro ⟨front, spelled, rest, whole, -⟩
    exact absurd whole.symm (List.append_ne_nil_of_right_ne_nil _ (List.cons_ne_nil _ _))
  | case2 pieces rest found ih =>
    refine iff_of_false (fun same ↦ nomatch (List.cons.inj same).1) ?_
    exact not_not_intro (masks_cons_iff.mpr (.inl ⟨rfl, rest, found⟩))
  | case3 pieces found ih =>
    rw [masks_cons_iff, List.cons_inj_right, ih, found]
    simp
  | case4 piece pieces notBackslash ih =>
    have other : piece ≠ .backslash := notBackslash
    rw [masks_cons_iff, List.cons_inj_right, ih]
    simp [other]

variable {value : List Char}

/-- Plain characters stand for themselves in every row. -/
theorem filled_of_dropSpelled? {text : List Char} {rest : List Piece}
    (found : dropSpelled? text pieces = some rest) :
    pieces.flatMap (Piece.filled name value) = text ++ rest.flatMap (Piece.filled name value) := by
  fun_induction dropSpelled? text pieces with
  | case1 => cases found; rfl
  | case2 text c unescaped pieces ih => rw [List.flatMap_cons, ih found]; rfl
  | case3 => cases found
  | case4 => cases found

/-- Each place taken for an interpolation is as long as one, and the value stands in its stead. -/
theorem length_filled_unmask (name : Word) (value : List Char) (pieces : List Piece) :
    ∃ places, ((unmask name pieces).flatMap (Piece.filled name value)).length +
          places * (mention name).length =
        (pieces.flatMap (Piece.filled name value)).length + places * value.length ∧
      (places = 0 → unmask name pieces = pieces) := by
  fun_induction unmask name pieces with
  | case1 => exact ⟨0, by rw [Nat.zero_mul, Nat.zero_mul], fun _ ↦ rfl⟩
  | case2 pieces rest found ih =>
    obtain ⟨places, lengths, -⟩ := ih
    refine ⟨places + 1, ?_, fun none ↦ absurd none (Nat.succ_ne_zero places)⟩
    have shown : (Piece.backslash :: pieces).flatMap (Piece.filled name value) =
        mention name ++ rest.flatMap (Piece.filled name value) :=
      congrArg ('\\' :: ·) (filled_of_dropSpelled? found)
    have taken : Piece.filled name value (.interpolation name) = value := if_pos rfl
    rw [shown, List.flatMap_cons, taken, List.length_append, List.length_append,
      Nat.succ_mul, Nat.succ_mul]
    omega
  | case3 pieces found ih =>
    obtain ⟨places, lengths, same⟩ := ih
    refine ⟨places, ?_, fun none ↦ by rw [same none]⟩
    rw [List.flatMap_cons, List.flatMap_cons, List.length_append, List.length_append]
    omega
  | case4 piece pieces notBackslash ih =>
    obtain ⟨places, lengths, same⟩ := ih
    refine ⟨places, ?_, fun none ↦ by rw [same none]⟩
    rw [List.flatMap_cons, List.flatMap_cons, List.length_append, List.length_append]
    omega

/-- A value as long as the interpolation is seen in the first place that was taken for one. -/
theorem unmask_eq_self_or_of_filled_eq (sameLength : value.length = (mention name).length)
    (same : (unmask name pieces).flatMap (Piece.filled name value) =
      pieces.flatMap (Piece.filled name value)) :
    unmask name pieces = pieces ∨ value = mention name := by
  fun_induction unmask name pieces with
  | case1 => exact .inl rfl
  | case2 pieces rest found ih =>
    have shown : (Piece.backslash :: pieces).flatMap (Piece.filled name value) =
        mention name ++ rest.flatMap (Piece.filled name value) :=
      congrArg ('\\' :: ·) (filled_of_dropSpelled? found)
    have taken : Piece.filled name value (.interpolation name) = value := if_pos rfl
    rw [shown, List.flatMap_cons, taken] at same
    exact .inr (List.append_inj same sameLength).1
  | case3 pieces found ih =>
    rw [List.flatMap_cons, List.flatMap_cons, List.append_cancel_left_eq] at same
    exact (ih same).imp_left (congrArg _)
  | case4 piece pieces notBackslash ih =>
    rw [List.flatMap_cons, List.flatMap_cons, List.append_cancel_left_eq] at same
    exact (ih same).imp_left (congrArg _)

/-- The interpolation put for itself changes nothing. -/
theorem filled_unmask_mention (name : Word) (pieces : List Piece) :
    (unmask name pieces).flatMap (Piece.filled name (mention name)) =
      pieces.flatMap (Piece.filled name (mention name)) := by
  fun_induction unmask name pieces with
  | case1 => rfl
  | case2 pieces rest found ih =>
    have taken : Piece.filled name (mention name) (.interpolation name) = mention name := if_pos rfl
    rw [List.flatMap_cons, List.flatMap_cons, taken, ih, filled_of_dropSpelled? found]
    rfl
  | case3 pieces found ih => rw [List.flatMap_cons, List.flatMap_cons, ih]
  | case4 piece pieces notBackslash ih => rw [List.flatMap_cons, List.flatMap_cons, ih]

/-- Pieces are filled in as they are meant exactly when no escaped backslash spells an
interpolation of the variable, or when the value is that interpolation. -/
theorem filled_unmask_eq_iff :
    (unmask name pieces).flatMap (Piece.filled name value) =
        pieces.flatMap (Piece.filled name value) ↔
      ¬Masks name pieces ∨ value = mention name := by
  rw [← unmask_eq_self_iff]
  constructor
  · intro same
    obtain ⟨places, lengths, noPlace⟩ := length_filled_unmask name value pieces
    rw [same, Nat.add_left_cancel_iff] at lengths
    rcases Nat.eq_zero_or_pos places with none | some
    · exact .inl (noPlace none)
    · exact unmask_eq_self_or_of_filled_eq (Nat.eq_of_mul_eq_mul_left some lengths).symm same
  · rintro (same | rfl)
    · rw [same]
    · exact filled_unmask_mention name pieces

/-! ## Rows -/

/-- The text that pieces are meant to show in a row in which a variable has a value. -/
def rowText (name : Word) (value : String) (pieces : List Piece) : String :=
  String.ofList (pieces.flatMap (Piece.filled name value.toList))

theorem replaceString_meaning (name : Word) (value : String) (pieces : List Piece) :
    replaceString (View.interpolation name.string) value
        (String.ofList (pieces.flatMap Piece.meaning)) =
      rowText name value (unmask name pieces) := by
  have nonempty : (View.interpolation name.string).toList ≠ [] := by
    rw [toList_interpolation]
    exact List.cons_ne_nil _ _
  rw [replaceString_eq_ofList nonempty, toList_interpolation, String.toList_ofList,
    replaceFrom_meaning, rowText]

theorem rowText_unmask_eq_iff {value : String} :
    rowText name value (unmask name pieces) = rowText name value pieces ↔
      ¬Masks name pieces ∨ value = View.interpolation name.string := by
  rw [rowText, rowText, String.ofList_inj, filled_unmask_eq_iff, ← toList_interpolation,
    String.toList_inj]

/-- A string literal, given by its pieces, inside the template of a repetition.  The literal is read
as what its pieces stand for.  Each row shows it, as a property or as the argument of a modifier at
the same place, with the value of the row in each interpolation of the row variable, with the other
interpolations as they are written, and with quotes and backslashes without their escapes; but
where an escaped backslash and the plain characters behind it spell an interpolation of the row
variable, the value stands there as well.  So the row shows what the pieces are meant to show
exactly when there is no such place, or when the value is the interpolation itself. -/
theorem expandRows_literal {repetition template inner : View} {path : List View.Step}
    (pieces : List Piece) (name : Word)
    (hasTemplate : repetition.view? "rowTemplate" = some template)
    (named : repetition.string? "rowVariable" = some name.string)
    (reached : template.at? path = some inner) (maxRepeat : Nat) :
    ∃ text, stringLiteral? (literalOf pieces) = some text ∧
      (repetition.expandRows maxRepeat).length = (repetition.rowValues maxRepeat).length ∧
      ∀ (k : Nat) (value : String), (repetition.rowValues maxRepeat)[k]? = some value →
        ∃ row shown : View, (repetition.expandRows maxRepeat)[k]? = some row ∧
          row.at? path = some shown ∧
          (∀ key, inner.property? key = some (.text text) →
            shown.property? key = some (.text (rowText name value (unmask name pieces)))) ∧
          (∀ (index : Nat) (modifier : String),
            inner.modifiers[index]? = some ⟨modifier, .text text⟩ →
            shown.modifiers[index]? =
              some ⟨modifier, .text (rowText name value (unmask name pieces))⟩) ∧
          (rowText name value (unmask name pieces) = rowText name value pieces ↔
            ¬Masks name pieces ∨ value = View.interpolation name.string) := by
  have rows : repetition.expandRows maxRepeat =
      (repetition.rowValues maxRepeat).map
        (template.replaceText (View.interpolation name.string)) := by
    rw [View.expandRows, hasTemplate, named]
    rfl
  refine ⟨_, stringLiteral?_literalOf pieces, by rw [rows, List.length_map], ?_⟩
  intro k value atPlace
  have filled := replaceString_meaning name value pieces
  refine ⟨template.replaceText (View.interpolation name.string) value,
    inner.replaceText (View.interpolation name.string) value, ?row, ?place, ?property, ?modifier,
    rowText_unmask_eq_iff⟩
  case row => rw [rows, List.getElem?_map, atPlace, Option.map_some]
  case place => rw [View.replaceText, View.at?_mapTexts, reached, Option.map_some]; rfl
  case property =>
    intro key held
    rw [View.replaceText, View.property?_mapTexts, held, ← filled]
    rfl
  case modifier =>
    intro index modifier held
    rw [View.replaceText, View.mapTexts_eq, ← filled]
    exact List.getElem?_map.trans (congrArg _ held)

/-- The row variable `i`. -/
def counter : Word :=
  ⟨['i'], by decide, List.all_eq_true.mp (by decide)⟩

/-- An escaped backslash in front of an interpolation is shown as one backslash. -/
theorem expandRows_literal_backslash :
    ∃ row : View, ((View.countedRows 0 2 (View.ofText "\\\\(i)")).expandRows 9)[1]? = some row ∧
      row.property? "text" = some (.text "\\1") := by
  have unmasked : unmask counter [.backslash, .interpolation counter] =
      [.backslash, .interpolation counter] := by
    simp [unmask, dropSpelled?, parenthesized]
  have hasTemplate : (View.countedRows 0 2 (View.ofText "\\\\(i)")).view? "rowTemplate" =
      some (View.ofText "\\\\(i)") := rfl
  have reached : (View.ofText "\\\\(i)").at? [] = some (View.ofText "\\\\(i)") := rfl
  obtain ⟨text, read, -, rows⟩ := expandRows_literal [.backslash, .interpolation counter] counter
    hasTemplate rfl reached 9
  obtain ⟨row, shown, rowAt, shownAt, property, -, meant⟩ := rows 1 "1" (by decide)
  obtain rfl : row = shown := Option.some.inj shownAt
  have same : text = "\\\\(i)" := Option.some.inj (read.symm.trans (by decide))
  have shownText : rowText counter "1" [.backslash, .interpolation counter] = "\\1" := by decide
  refine ⟨row, rowAt, (property "text" (same ▸ rfl)).trans ?_⟩
  rw [meant.mpr (.inl (unmask_eq_self_iff.mp unmasked)), shownText]

/-- An escaped backslash in front of plain characters that are the name of the variable in
parentheses. -/
def escapedName : List Piece :=
  [.backslash, .plain '(' (by decide), .plain 'i' (by decide), .plain ')' (by decide)]

/-- What an escaped backslash and plain characters spell is replaced as an interpolation is. -/
theorem escapedName_replaced :
    ¬ ∀ (pieces : List Piece) (name : Word) (repetition template row : View) (text value : String)
        (maxRepeat k : Nat),
      stringLiteral? (literalOf pieces) = some text →
      repetition.view? "rowTemplate" = some template →
      repetition.string? "rowVariable" = some name.string →
      template.string? "text" = some text →
      (repetition.rowValues maxRepeat)[k]? = some value →
      (repetition.expandRows maxRepeat)[k]? = some row →
      row.string? "text" = some (rowText name value pieces) := by
  intro meant
  have shown := meant escapedName counter (View.countedRows 0 1 (View.ofText "\\(i)")) _ _
    "\\(i)" "0" 9 0 (by decide) rfl rfl rfl (by decide) rfl
  exact absurd shown (by decide)

end ViewPreview.Spelling
