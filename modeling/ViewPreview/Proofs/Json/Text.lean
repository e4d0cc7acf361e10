import ViewPreview.Json.Basic
import ViewPreview.Proofs.Style.Plain

/-!
# What JSON Text Determines

No two values have the same text.  A value is known by the first character of its text, what is
nested in it ends at a comma or a line break, and an escaped character tells where it ends by
itself.  Only the numerals have to be those of numbers, since any text may be held in their place.
-/

namespace ViewPreview.Json

open ViewPreview.Style (isWordPart Worded)
open ViewPreview.Text (Consists consists_iff isAsciiDigit Stops stops_cons stops_nil
  takeWhile_append_of_stops dropWhile_append_of_stops)

/-! ## Strings -/

/-- The control character with a code in two hexadecimal digits. -/
def controlOf? (upper lower : Char) : Option Char :=
  ((List.range 32).find? fun code ↦
    Nat.digitChar (code / 16) == upper && Nat.digitChar (code % 16) == lower).map Char.ofNat

/-- Split the character that a backslash escapes off what follows the backslash. -/
def splitEscape? : List Char → Option (Char × List Char)
  | 'u' :: '0' :: '0' :: upper :: lower :: rest =>
    (controlOf? upper lower).map fun c ↦ (c, rest)
  | '"' :: rest => some ('"', rest)
  | '\\' :: rest => some ('\\', rest)
  | 'n' :: rest => some ('\n', rest)
  | 'r' :: rest => some ('\r', rest)
  | 't' :: rest => some ('\t', rest)
  | 'b' :: rest => some ('\x08', rest)
  | 'f' :: rest => some ('\x0c', rest)
  | _ => none

/-- Split the first character off the escaped text of a string. -/
def splitEscaped? : List Char → Option (Char × List Char)
  | [] => none
  | c :: rest =>
    if c = '\\' then splitEscape? rest else if c = '"' then none else some (c, rest)

theorem controlOf?_digits {c : Char} (control : c.toNat < 32) :
    controlOf? (Nat.digitChar (c.toNat / 16)) (Nat.digitChar (c.toNat % 16)) = some c := by
  have all : ∀ code < 32,
      controlOf? (Nat.digitChar (code / 16)) (Nat.digitChar (code % 16)) =
        some (Char.ofNat code) := by
    decide +kernel
  rw [all c.toNat control, Char.ofNat_toNat]

theorem splitEscaped?_append (c : Char) (rest : List Char) :
    splitEscaped? (escapeChar c ++ rest) = some (c, rest) := by
  unfold escapeChar
  split
  case h_8 quote backslash _ _ _ _ _ =>
    split
    · next control =>
      change (controlOf? _ _).map _ = _
      rw [controlOf?_digits control]
      rfl
    · exact (if_neg backslash).trans (if_neg quote)
  all_goals rfl

/-- The escaped text of a string up to the quote behind it tells the string. -/
theorem escaped_inj {first second rest other : List Char}
    (same : first.flatMap escapeChar ++ '"' :: rest = second.flatMap escapeChar ++ '"' :: other) :
    first = second ∧ rest = other := by
  have ends (rest : List Char) : splitEscaped? ('"' :: rest) = none := rfl
  have begins (c : Char) (text rest : List Char) :
      splitEscaped? ((c :: text).flatMap escapeChar ++ '"' :: rest) =
        some (c, text.flatMap escapeChar ++ '"' :: rest) := by
    rw [List.flatMap_cons, List.append_assoc, splitEscaped?_append]
  have split := congrArg splitEscaped? same
  induction first generalizing second with
  | nil =>
    cases second with
    | nil => exact ⟨rfl, List.tail_eq_of_cons_eq same⟩
    | cons d second =>
      rw [begins, List.flatMap_nil, List.nil_append, ends] at split
      cases split
  | cons c first ih =>
    cases second with
    | nil =>
      rw [begins, List.flatMap_nil, List.nil_append, ends] at split
      cases split
    | cons d second =>
      rw [begins, begins, Option.some_inj, Prod.mk.injEq] at split
      obtain ⟨sameFirst, sameRest⟩ := ih split.2 (congrArg splitEscaped? split.2)
      exact ⟨by rw [split.1, sameFirst], sameRest⟩

/-! ## Numerals -/

/-- Whether a text is written for a number: a word that begins with a minus sign or a digit. -/
structure IsNumeral (text : String) : Prop where
  worded : Worded text
  begins : ∃ c rest, text.toList = c :: rest ∧ (c = '-' ∨ isAsciiDigit c = true)

mutual

/-- Whether all numerals in a value are written for numbers. -/
def HasNumerals : Json → Prop
  | .numeral text => IsNumeral text
  | .array items => ItemsHaveNumerals items
  | .object members => MembersHaveNumerals members
  | _ => True

/-- Whether all numerals in the items of an array are written for numbers. -/
def ItemsHaveNumerals : List Json → Prop
  | [] => True
  | item :: items => item.HasNumerals ∧ ItemsHaveNumerals items

/-- Whether all numerals in the members of an object are written for numbers. -/
def MembersHaveNumerals : List (String × Json) → Prop
  | [] => True
  | (_, value) :: members => value.HasNumerals ∧ MembersHaveNumerals members

end

/-! ## Texts -/

/-- The characters of a value at a level of nesting. -/
def chars (level : Nat) (value : Json) : List Char :=
  (value.writeAt level).toList

/-- The characters of the items of an array after the first. -/
def itemsChars (level : Nat) (items : List Json) : List Char :=
  (writeItems level items).toList

/-- The characters of a member of an object. -/
def memberChars (level : Nat) (member : String × Json) : List Char :=
  (writeMember level member).toList

/-- The characters of the members of an object after the first. -/
def membersChars (level : Nat) (members : List (String × Json)) : List Char :=
  (writeMembers level members).toList

/-- The blanks at the start of a line. -/
def indentation (level : Nat) : List Char :=
  List.replicate (2 * level) ' '

section Chars

variable (level : Nat) (rest : List Char)

theorem toList_lineStart : (lineStart level).toList = '\n' :: indentation level := by
  simp [lineStart, indentation]

theorem chars_null : chars level .null = ['n', 'u', 'l', 'l'] := by
  show "null".toList = _
  decide

theorem chars_true : chars level (.bool true) = ['t', 'r', 'u', 'e'] := by
  show "true".toList = _
  decide

theorem chars_false : chars level (.bool false) = ['f', 'a', 'l', 's', 'e'] := by
  show "false".toList = _
  decide

theorem chars_array_nil : chars level (.array []) = ['[', ']'] := by
  show "[]".toList = _
  decide

theorem chars_object_nil : chars level (.object []) = ['\x7b', '\x7d'] := by
  show "\x7b\x7d".toList = _
  decide

theorem chars_string (text : String) :
    chars level (.string text) ++ rest =
      '"' :: (text.toList.flatMap escapeChar ++ '"' :: rest) := by
  show (quote text).toList ++ rest = _
  simp [quote]

theorem chars_array (item : Json) (items : List Json) :
    chars level (.array (item :: items)) ++ rest =
      '[' :: '\n' :: (indentation (level + 1) ++ (chars (level + 1) item ++
        (itemsChars (level + 1) items ++ '\n' :: (indentation level ++ ']' :: rest)))) := by
  show ("[" ++ lineStart (level + 1) ++ writeAt (level + 1) item ++ writeItems (level + 1) items ++
    lineStart level ++ "]").toList ++ rest = _
  simp [chars, itemsChars, toList_lineStart]

theorem chars_object (member : String × Json) (members : List (String × Json)) :
    chars level (.object (member :: members)) ++ rest =
      '\x7b' :: '\n' :: (indentation (level + 1) ++ (memberChars (level + 1) member ++
        (membersChars (level + 1) members ++ '\n' :: (indentation level ++ '\x7d' :: rest)))) := by
  show ("\x7b" ++ lineStart (level + 1) ++ writeMember (level + 1) member ++
    writeMembers (level + 1) members ++ lineStart level ++ "\x7d").toList ++ rest = _
  simp [memberChars, membersChars, toList_lineStart]

theorem itemsChars_cons (item : Json) (items : List Json) :
    itemsChars level (item :: items) ++ rest =
      ',' :: '\n' ::
        (indentation level ++ (chars level item ++ (itemsChars level items ++ rest))) := by
  simp [chars, itemsChars, writeItems, toList_lineStart]

theorem memberChars_eq (name : String) (value : Json) :
    memberChars level (name, value) ++ rest =
      '"' :: (name.toList.flatMap escapeChar ++
        '"' :: ':' :: ' ' :: (chars level value ++ rest)) := by
  simp [chars, memberChars, writeMember, quote]

theorem membersChars_cons (member : String × Json) (members : List (String × Json)) :
    membersChars level (member :: members) ++ rest =
      ',' :: '\n' :: (indentation level ++
        (memberChars level member ++ (membersChars level members ++ rest))) := by
  simp [memberChars, membersChars, writeMembers, toList_lineStart]

end Chars

/-! ## What a text begins with -/

/-- The constructor of a value, as a number. -/
def shape : Json → Nat
  | .null => 0
  | .bool _ => 1
  | .string _ => 2
  | .array _ => 3
  | .object _ => 4
  | .numeral _ => 5

/-- The constructor of a value whose text begins with a character. -/
def shapeOf (c : Char) : Nat :=
  match c with
  | 'n' => 0
  | 't' => 1
  | 'f' => 1
  | '"' => 2
  | '[' => 3
  | '\x7b' => 4
  | _ => 5

theorem shapeOf_of_isNumeral {c : Char} (begins : c = '-' ∨ isAsciiDigit c = true) :
    shapeOf c = 5 := by
  unfold shapeOf
  split
  case h_7 => rfl
  all_goals exact absurd begins (by decide)

/-- A value is known by the first character of its text. -/
theorem shape_of_chars (level : Nat) {value : Json} (numerals : value.HasNumerals) :
    ∃ c rest, chars level value = c :: rest ∧ shapeOf c = value.shape := by
  cases value with
  | null => exact ⟨_, _, chars_null level, rfl⟩
  | bool value =>
    cases value with
    | false => exact ⟨_, _, chars_false level, rfl⟩
    | true => exact ⟨_, _, chars_true level, rfl⟩
  | numeral text =>
    obtain ⟨c, rest, same, begins⟩ := numerals.begins
    exact ⟨c, rest, same, shapeOf_of_isNumeral begins⟩
  | string text =>
    have text := chars_string level [] text
    rw [List.append_nil] at text
    exact ⟨_, _, text, rfl⟩
  | array items =>
    cases items with
    | nil => exact ⟨_, _, chars_array_nil level, rfl⟩
    | cons item items =>
      have text := chars_array level [] item items
      rw [List.append_nil] at text
      exact ⟨_, _, text, rfl⟩
  | object members =>
    cases members with
    | nil => exact ⟨_, _, chars_object_nil level, rfl⟩
    | cons member members =>
      have text := chars_object level [] member members
      rw [List.append_nil] at text
      exact ⟨_, _, text, rfl⟩

theorem shape_eq_of_chars {level : Nat} {first second : Json} {rest other : List Char}
    (firstNumerals : first.HasNumerals) (secondNumerals : second.HasNumerals)
    (same : chars level first ++ rest = chars level second ++ other) :
    first.shape = second.shape := by
  obtain ⟨c, front, firstText, firstShape⟩ := shape_of_chars level firstNumerals
  obtain ⟨d, back, secondText, secondShape⟩ := shape_of_chars level secondNumerals
  rw [firstText, secondText, List.cons_append, List.cons_append, List.cons.injEq] at same
  rw [← firstShape, ← secondShape, same.1]

/-! ## What a text determines -/

theorem stops_itemsChars {level : Nat} (items : List Json) (tail : List Char) :
    Stops isWordPart (itemsChars level items ++ '\n' :: tail) := by
  cases items with
  | nil => exact stops_cons.mpr (by decide)
  | cons item items =>
    rw [itemsChars_cons]
    exact stops_cons.mpr (by decide)

theorem stops_membersChars {level : Nat} (members : List (String × Json)) (tail : List Char) :
    Stops isWordPart (membersChars level members ++ '\n' :: tail) := by
  cases members with
  | nil => exact stops_cons.mpr (by decide)
  | cons member members =>
    rw [membersChars_cons]
    exact stops_cons.mpr (by decide)

theorem numeral_inj {first second : String} {rest other : List Char} (firstWorded : Worded first)
    (secondWorded : Worded second) (stops : Stops isWordPart rest)
    (stopsOther : Stops isWordPart other)
    (same : first.toList ++ rest = second.toList ++ other) : first = second ∧ rest = other := by
  have words := congrArg (List.takeWhile isWordPart) same
  have rests := congrArg (List.dropWhile isWordPart) same
  rw [takeWhile_append_of_stops (consists_iff.mp firstWorded) stops,
    takeWhile_append_of_stops (consists_iff.mp secondWorded) stopsOther] at words
  rw [dropWhile_append_of_stops (consists_iff.mp firstWorded) stops,
    dropWhile_append_of_stops (consists_iff.mp secondWorded) stopsOther] at rests
  exact ⟨String.toList_injective words, rests⟩

section Parts

variable {level : Nat} {rest other : List Char}

theorem bool_inj {first second : Bool}
    (same : chars level (.bool first) ++ rest = chars level (.bool second) ++ other) :
    first = second ∧ rest = other := by
  cases first <;> cases second
  case false.true | true.false => simp [chars_true, chars_false] at same
  all_goals exact ⟨rfl, List.append_cancel_left same⟩

theorem array_ne_of_nil (item : Json) (items : List Json) :
    chars level (.array []) ++ rest ≠ chars level (.array (item :: items)) ++ other := by
  rw [chars_array, chars_array_nil]
  exact fun same ↦ absurd (List.head_eq_of_cons_eq (List.tail_eq_of_cons_eq same)) (by decide)

theorem object_ne_of_nil (member : String × Json) (members : List (String × Json)) :
    chars level (.object []) ++ rest ≠ chars level (.object (member :: members)) ++ other := by
  rw [chars_object, chars_object_nil]
  exact fun same ↦ absurd (List.head_eq_of_cons_eq (List.tail_eq_of_cons_eq same)) (by decide)

/-- Behind the characters that open a list and the first indentation stands the first element. -/
theorem cancel_opening {c d : Char} {first second : List Char}
    (same : c :: d :: (indentation level ++ first) = c :: d :: (indentation level ++ second)) :
    first = second :=
  List.append_cancel_left (List.tail_eq_of_cons_eq (List.tail_eq_of_cons_eq same))

/-- Behind the last indentation stands the character that closes a list. -/
theorem cancel_closing {c : Char}
    (same : indentation level ++ c :: rest = indentation level ++ c :: other) : rest = other :=
  List.tail_eq_of_cons_eq (List.append_cancel_left same)

end Parts

mutual

/-- The text of a value, with whatever follows it, tells the value. -/
theorem chars_inj (level : Nat) : ∀ (first second : Json) (rest other : List Char),
    first.HasNumerals → second.HasNumerals → Stops isWordPart rest → Stops isWordPart other →
    chars level first ++ rest = chars level second ++ other → first = second ∧ rest = other
  | .null => by
    intro second _ _ firstNumerals secondNumerals _ _ same
    have sameShape := shape_eq_of_chars firstNumerals secondNumerals same
    cases second <;> cases sameShape
    exact ⟨rfl, List.append_cancel_left same⟩
  | .bool value => by
    intro second _ _ firstNumerals secondNumerals _ _ same
    have sameShape := shape_eq_of_chars firstNumerals secondNumerals same
    cases second <;> cases sameShape
    obtain ⟨rfl, sameRest⟩ := bool_inj same
    exact ⟨rfl, sameRest⟩
  | .numeral text => by
    intro second _ _ firstNumerals secondNumerals stops stopsOther same
    have sameShape := shape_eq_of_chars firstNumerals secondNumerals same
    cases second <;> cases sameShape
    obtain ⟨rfl, sameRest⟩ :=
      numeral_inj firstNumerals.worded secondNumerals.worded stops stopsOther same
    exact ⟨rfl, sameRest⟩
  | .string text => by
    intro second _ _ firstNumerals secondNumerals _ _ same
    have sameShape := shape_eq_of_chars firstNumerals secondNumerals same
    cases second <;> cases sameShape
    rw [chars_string, chars_string] at same
    obtain ⟨sameText, sameRest⟩ := escaped_inj (List.tail_eq_of_cons_eq same)
    exact ⟨congrArg Json.string (String.toList_injective sameText), sameRest⟩
  | .array [] => by
    intro second _ _ firstNumerals secondNumerals _ _ same
    have sameShape := shape_eq_of_chars firstNumerals secondNumerals same
    cases second <;> cases sameShape
    next items =>
    cases items with
    | nil => exact ⟨rfl, List.append_cancel_left same⟩
    | cons item items => exact absurd same (array_ne_of_nil item items)
  | .array (item :: items) => by
    intro second _ _ firstNumerals secondNumerals _ _ same
    have sameShape := shape_eq_of_chars firstNumerals secondNumerals same
    cases second <;> cases sameShape
    next otherItems =>
    cases otherItems with
    | nil => exact absurd same.symm (array_ne_of_nil item items)
    | cons otherItem otherItems =>
      rw [chars_array, chars_array] at same
      obtain ⟨sameItem, sameItems⟩ := chars_inj (level + 1) item _ _ _ firstNumerals.1
        secondNumerals.1 (stops_itemsChars items _) (stops_itemsChars otherItems _)
        (cancel_opening same)
      obtain ⟨sameItems, sameRest⟩ :=
        itemsChars_inj (level + 1) items _ _ _ firstNumerals.2 secondNumerals.2 sameItems
      exact ⟨by rw [sameItem, sameItems], cancel_closing sameRest⟩
  | .object [] => by
    intro second _ _ firstNumerals secondNumerals _ _ same
    have sameShape := shape_eq_of_chars firstNumerals secondNumerals same
    cases second <;> cases sameShape
    next members =>
    cases members with
    | nil => exact ⟨rfl, List.append_cancel_left same⟩
    | cons member members => exact absurd same (object_ne_of_nil member members)
  | .object ((name, value) :: members) => by
    intro second _ _ firstNumerals secondNumerals _ _ same
    have sameShape := shape_eq_of_chars firstNumerals secondNumerals same
    cases second <;> cases sameShape
    next otherMembers =>
    cases otherMembers with
    | nil => exact absurd same.symm (object_ne_of_nil (name, value) members)
    | cons otherMember otherMembers =>
      rw [chars_object, chars_object, memberChars_eq, memberChars_eq] at same
      obtain ⟨sameName, sameValue⟩ := escaped_inj (List.tail_eq_of_cons_eq (cancel_opening same))
      obtain ⟨sameValue, sameMembers⟩ := chars_inj (level + 1) value _ _ _ firstNumerals.1
        secondNumerals.1 (stops_membersChars members _) (stops_membersChars otherMembers _)
        (List.tail_eq_of_cons_eq (List.tail_eq_of_cons_eq sameValue))
      obtain ⟨sameMembers, sameRest⟩ :=
        membersChars_inj (level + 1) members _ _ _ firstNumerals.2 secondNumerals.2 sameMembers
      rw [String.toList_injective sameName, sameValue, sameMembers]
      exact ⟨rfl, cancel_closing sameRest⟩

/-- The text of the items of an array after the first tells the items. -/
theorem itemsChars_inj (level : Nat) :
    ∀ (first second : List Json) (tail other : List Char),
    ItemsHaveNumerals first → ItemsHaveNumerals second →
    itemsChars level first ++ '\n' :: tail = itemsChars level second ++ '\n' :: other →
    first = second ∧ tail = other
  | [] => by
    intro second _ _ _ _ same
    cases second with
    | nil => exact ⟨rfl, List.tail_eq_of_cons_eq same⟩
    | cons item items =>
      rw [itemsChars_cons] at same
      cases same
  | item :: items => by
    intro second _ _ firstNumerals secondNumerals same
    cases second with
    | nil =>
      rw [itemsChars_cons] at same
      cases same
    | cons otherItem otherItems =>
      rw [itemsChars_cons, itemsChars_cons] at same
      obtain ⟨sameItem, sameTail⟩ := chars_inj level item _ _ _ firstNumerals.1 secondNumerals.1
        (stops_itemsChars items _) (stops_itemsChars otherItems _) (cancel_opening same)
      obtain ⟨sameItems, sameTail⟩ :=
        itemsChars_inj level items _ _ _ firstNumerals.2 secondNumerals.2 sameTail
      exact ⟨by rw [sameItem, sameItems], sameTail⟩

/-- The text of the members of an object after the first tells the members. -/
theorem membersChars_inj (level : Nat) :
    ∀ (first second : List (String × Json)) (tail other : List Char),
    MembersHaveNumerals first → MembersHaveNumerals second →
    membersChars level first ++ '\n' :: tail = membersChars level second ++ '\n' :: other →
    first = second ∧ tail = other
  | [] => by
    intro second _ _ _ _ same
    cases second with
    | nil => exact ⟨rfl, List.tail_eq_of_cons_eq same⟩
    | cons member members =>
      rw [membersChars_cons] at same
      cases same
  | (name, value) :: members => by
    intro second _ _ firstNumerals secondNumerals same
    cases second with
    | nil =>
      rw [membersChars_cons] at same
      cases same
    | cons otherMember otherMembers =>
      rw [membersChars_cons, membersChars_cons, memberChars_eq, memberChars_eq] at same
      obtain ⟨sameName, sameValue⟩ := escaped_inj (List.tail_eq_of_cons_eq (cancel_opening same))
      obtain ⟨sameValue, sameTail⟩ := chars_inj level value _ _ _ firstNumerals.1 secondNumerals.1
        (stops_membersChars members _) (stops_membersChars otherMembers _)
        (List.tail_eq_of_cons_eq (List.tail_eq_of_cons_eq sameValue))
      obtain ⟨sameMembers, sameTail⟩ :=
        membersChars_inj level members _ _ _ firstNumerals.2 secondNumerals.2 sameTail
      rw [String.toList_injective sameName, sameValue, sameMembers]
      exact ⟨rfl, sameTail⟩

end

/-- Values whose numerals are written for numbers have different texts when they differ. -/
theorem write_injective {first second : Json} (firstNumerals : first.HasNumerals)
    (secondNumerals : second.HasNumerals) (same : first.write = second.write) : first = second := by
  have sameChars : chars 0 first ++ [] = chars 0 second ++ [] :=
    congrArg (fun text : String ↦ text.toList ++ []) same
  exact (chars_inj 0 first second [] [] firstNumerals secondNumerals (stops_nil _) (stops_nil _)
    sameChars).1

end ViewPreview.Json
