import ViewPreview.Proofs.Canonical.Modifier
import ViewPreview.Proofs.Spelling.Literal

/-!
# Operands, Calls and Argument Lists

The arguments of a modifier are numerals, names, enumeration cases, lists of these, string literals,
and calls that take such arguments themselves.  Each is an operand: a text that nothing separates,
at whatever depth of brackets it stands.  Operands with or without labels make up an argument list,
which is read back as the operands it was put together from, so that an operand is found under its
own label and under no other.
-/

namespace ViewPreview.Spelling

open ViewPreview.Text ViewPreview.Call ViewPreview.Number ViewPreview.Canonical

/-! ## Operands -/

/-- A text that can stand as an argument, however many brackets are open around it. -/
structure Operand where
  text : List Char
  unsplit : ∀ depth : Int, 0 ≤ depth →
    Unsplit ',' ⟨.outside, depth⟩ ⟨.outside, depth⟩ text
  trimmed : Trimmed text
  nonempty : text ≠ []
  unlabeled : splitLabel? text = none

namespace Operand

theorem isArgument (operand : Operand) : IsArgument operand.text :=
  ⟨operand.unsplit 0 (Int.le_refl 0), operand.trimmed, operand.nonempty, operand.unlabeled⟩

/-- An operand of the characters of names, numerals and ranges. -/
def ofParts (text : List Char) (parts : ∀ c ∈ text, isTokenPart c = true) (nonempty : text ≠ [])
    (unlabeled : splitLabel? text = none) : Operand where
  text := text
  unsplit depth _ := by
    apply unsplit_plain
    · exact fun c member ↦ not_isDelimiter_of_isTokenPart (parts c member)
    · exact .inr fun member ↦ ne_of_isTokenPart (parts _ member) (by decide) rfl
  trimmed := trimmed_of_forall fun c member ↦ not_isBlank_of_isTokenPart (parts c member)
  nonempty := nonempty
  unlabeled := unlabeled

/-- A numeral as an operand. -/
def number (numeral : Numeral) : Operand :=
  ofParts numeral.text (isTokenPart_numeral numeral) (isValue_numeral numeral).nonempty
    (isValue_numeral numeral).unlabeled

/-- A name as an operand. -/
def name (name : Identifier) : Operand :=
  ofParts name.chars
    (fun _ member ↦ isTokenPart_of_isIdentifierPart (name.isIdentifierPart_of_mem member))
    name.chars_ne_nil (splitLabel?_identifier name)

/-- An enumeration case as an operand. -/
def dot (name : Identifier) : Operand :=
  ofParts (caseText name) (isTokenPart_caseText name) (List.cons_ne_nil _ _)
    (isValue_caseText name).unlabeled

/-- A string literal as an operand. -/
def string (content : String) : Operand where
  text := literal content
  unsplit depth _ := unsplit_literal ',' depth content
  trimmed := trimmed_literal content
  nonempty := List.cons_ne_nil _ _
  unlabeled := splitLabel?_eq_none (by decide) (by decide)

/-- A list of enumeration cases as an operand. -/
def dots (names : List Identifier) : Operand where
  text := caseListText names
  unsplit depth nested := by
    apply unsplit_bracketed nested
    apply forall_mem_caseArguments (isDelimiter · = false) names (by decide) (by decide)
    exact fun c part ↦ not_isDelimiter_of_isTokenPart part
  trimmed := (isValue_caseListText names).trimmed
  nonempty := (isValue_caseListText names).nonempty
  unlabeled := (isValue_caseListText names).unlabeled

/-- Whether an operand has no parentheses. -/
def Flat (operand : Operand) : Prop :=
  ∀ c ∈ operand.text, c ≠ '(' ∧ c ≠ ')'

theorem flat_ofParts {text : List Char} {parts : ∀ c ∈ text, isTokenPart c = true}
    {nonempty : text ≠ []} {unlabeled : splitLabel? text = none} :
    (ofParts text parts nonempty unlabeled).Flat := fun c member ↦
  ⟨ne_of_isTokenPart (parts c member) (by decide), ne_of_isTokenPart (parts c member) (by decide)⟩

theorem flat_number (numeral : Numeral) : (number numeral).Flat :=
  flat_ofParts

theorem flat_dot (name : Identifier) : (dot name).Flat :=
  flat_ofParts

theorem flat_dots (names : List Identifier) : (dots names).Flat := by
  intro c member
  have flat := (isValue_caseListText names).flat c member
  rw [List.mem_cons, List.mem_cons, not_or, not_or] at flat
  exact ⟨flat.1, flat.2.1⟩

theorem flat_string {content : String} (flat : ∀ c ∈ content.toList, c ≠ '(' ∧ c ≠ ')') :
    (string content).Flat := by
  intro c member
  rcases List.mem_cons.mp member with rfl | later
  · decide
  · rcases List.mem_append.mp later with escaped | closing
    · rcases mem_of_mem_escape escaped with rfl | inside
      · decide
      · exact flat c inside
    · rw [List.mem_singleton.mp closing]
      decide

end Operand

/-! ## Argument lists -/

/-- An argument of a list: an operand and its label. -/
structure Slot where
  label : Option Identifier
  operand : Operand

namespace Slot

/-- An argument without a label. -/
def plain (operand : Operand) : Slot :=
  ⟨none, operand⟩

/-- The argument as it is spelled. -/
def spelled (slot : Slot) : SpelledArgument :=
  ⟨slot.label, slot.operand.text, slot.operand.isArgument⟩

/-- The argument that is read. -/
def argument (slot : Slot) : Argument :=
  slot.spelled.argument

end Slot

/-- An argument with a label, when there is an operand for it. -/
def labeled (label : Identifier) (operand : Option Operand) : List Slot :=
  operand.toList.map fun operand ↦ ⟨some label, operand⟩

/-- An argument without a label, when there is an operand for it. -/
def positional (operand : Option Operand) : List Slot :=
  operand.toList.map .plain

theorem flat_labeled {label : Identifier} {optional : Option Operand}
    (flat : ∀ operand ∈ optional, operand.Flat) :
    ∀ slot ∈ labeled label optional, slot.operand.Flat := by
  intro slot member
  obtain ⟨operand, present, rfl⟩ := List.mem_map.mp member
  exact flat operand (Option.mem_toList.mp present)

theorem flat_labeled_map {α : Type} {make : α → Operand} (flat : ∀ made, (make made).Flat)
    (label : Identifier) (optional : Option α) :
    ∀ slot ∈ labeled label (optional.map make), slot.operand.Flat := by
  apply flat_labeled
  intro operand member
  obtain ⟨made, -, rfl⟩ := Option.map_eq_some_iff.mp member
  exact flat made

/-- An argument list as it is spelled. -/
def slotsText (slots : List Slot) : List Char :=
  spelledText (slots.map Slot.spelled)

/-- The arguments of a call that are read from its spelling. -/
def argumentsOfSlots (slots : List Slot) (trailing : List View) : Arguments :=
  { values := slots.map Slot.argument
    trailing := trailing }

/-- An argument list is read back from its spelling. -/
theorem argumentsOf_slotsText (slots : List Slot) :
    argumentsOf (slotsText slots) = slots.map Slot.argument := by
  rw [slotsText, argumentsOf_spelledText, List.map_map]
  rfl

theorem ofText_slotsText (slots : List Slot) :
    Arguments.ofText (slotsText slots) = argumentsOfSlots slots [] := by
  rw [Arguments.ofText, argumentsOf_slotsText]
  rfl

theorem exists_slotsText_cons (first : Slot) (others : List Slot) :
    ∃ rest, slotsText (first :: others) = first.spelled.text ++ rest :=
  exists_spelledText_cons _ _

/-- The characters of an argument list are those of its operands, of its labels, and what stands
between them. -/
theorem forall_mem_slotsText {property : Char → Prop} {slots : List Slot}
    (parts : ∀ c, isIdentifierPart c = true ∨ c ∈ [':', ' ', ','] → property c)
    (each : ∀ slot ∈ slots, ∀ c ∈ slot.operand.text, property c) :
    ∀ c ∈ slotsText slots, property c := by
  apply forall_mem_spelledText (parts _ (by simp)) (parts _ (by simp))
  intro argument member
  obtain ⟨⟨label, operand⟩, inside, rfl⟩ := List.mem_map.mp member
  cases label with
  | none => exact each _ inside
  | some label =>
    refine List.forall_mem_append.mpr ⟨?_, ?_⟩
    · exact fun c part ↦ parts c (.inl (label.isIdentifierPart_of_mem part))
    · refine List.forall_mem_cons.mpr ⟨parts _ (by simp), ?_⟩
      exact List.forall_mem_cons.mpr ⟨parts _ (by simp), each _ inside⟩

theorem flat_slotsText {slots : List Slot} (flat : ∀ slot ∈ slots, slot.operand.Flat) :
    ∀ c ∈ slotsText slots, c ≠ '(' ∧ c ≠ ')' := by
  apply forall_mem_slotsText _ flat
  rintro c (part | between)
  · exact ⟨ne_of_isIdentifierPart part (by decide), ne_of_isIdentifierPart part (by decide)⟩
  · have each : ∀ d ∈ [':', ' ', ','], d ≠ '(' ∧ d ≠ ')' := by simp
    exact each c between

/-- Nothing separates in an argument list below the top. -/
theorem unsplit_slotsText (slots : List Slot) {depth : Int} (nested : 0 < depth) :
    Unsplit ',' ⟨.outside, depth⟩ ⟨.outside, depth⟩ (slotsText slots) := by
  have below : depth ≠ 0 := by omega
  have each (slot : Slot) :
      Unsplit ',' ⟨.outside, depth⟩ ⟨.outside, depth⟩ slot.spelled.text := by
    obtain ⟨label, operand⟩ := slot
    have inside := operand.unsplit depth (by omega)
    cases label with
    | none => exact inside
    | some label =>
      have name := unsplit_identifier label depth
      have colon : Unsplit ',' ⟨.outside, depth⟩ ⟨.outside, depth⟩ [':', ' '] :=
        unsplit_plain (by simp [isDelimiter]) (.inl below)
      exact name.append (colon.append inside)
  have comma : Unsplit ',' ⟨.outside, depth⟩ ⟨.outside, depth⟩ [',', ' '] :=
    unsplit_plain (by simp [isDelimiter]) (.inl below)
  induction slots with
  | nil => exact unsplit_nil
  | cons first others ih =>
    cases others with
    | nil => exact each first
    | cons second others => exact (each first).append (comma.append ih)

/-! ## Calls -/

/-- What is called: a type, an enumeration case, or a method of an enumeration case. -/
inductive Callee where
  | type (name : Identifier)
  | dot (name : Identifier)
  | method (name action : Identifier)

namespace Callee

/-- What is called, as it is spelled. -/
def chars : Callee → List Char
  | .type name => name.chars
  | .dot name => caseText name
  | .method name action => caseText name ++ caseText action

theorem isTokenPart_chars (callee : Callee) : ∀ c ∈ callee.chars, isTokenPart c = true := by
  cases callee with
  | type name =>
    exact fun c member ↦ isTokenPart_of_isIdentifierPart (name.isIdentifierPart_of_mem member)
  | dot name => exact isTokenPart_caseText name
  | method name action =>
    exact List.forall_mem_append.mpr ⟨isTokenPart_caseText name, isTokenPart_caseText action⟩

theorem chars_ne_nil (callee : Callee) : callee.chars ≠ [] := by
  cases callee with
  | type name => exact name.chars_ne_nil
  | dot name => exact List.cons_ne_nil _ _
  | method name action => exact List.cons_ne_nil _ _

theorem splitLabel?_chars (callee : Callee) (rest : List Char) :
    splitLabel? (callee.chars ++ '(' :: rest) = none := by
  cases callee with
  | type name =>
    have noPart : isIdentifierPart '(' = false := by decide
    show splitLabel? (name.chars ++ '(' :: rest) = none
    rw [splitLabel?, trimStart_identifier, name.splitIdentifier?_append (stops_cons.mpr noPart)]
    rfl
  | dot name => exact splitLabel?_eq_none (by decide) (by decide)
  | method name action => exact splitLabel?_eq_none (by decide) (by decide)

end Callee

/-- A call as an operand. -/
def Operand.call (callee : Callee) (slots : List Slot) : Operand where
  text := callee.chars ++ '(' :: (slotsText slots ++ [')'])
  unsplit depth nested := by
    have front : Unsplit ',' ⟨.outside, depth⟩ ⟨.outside, depth⟩ callee.chars := by
      apply unsplit_plain
      · exact fun c member ↦ not_isDelimiter_of_isTokenPart (callee.isTokenPart_chars c member)
      · exact .inr fun member ↦
          ne_of_isTokenPart (callee.isTokenPart_chars _ member) (by decide) rfl
    have inside := unsplit_slotsText slots (Int.lt_add_one_of_le nested)
    exact front.append (unsplit_enclosed rfl rfl ⟨rfl, rfl⟩ inside)
  trimmed := by
    have first : Trimmed callee.chars := trimmed_of_forall fun c member ↦
      not_isBlank_of_isTokenPart (callee.isTokenPart_chars c member)
    apply first.append callee.chars_ne_nil
    intro c member
    rw [← List.cons_append, List.getLast?_concat] at member
    rw [← Option.some.inj member]
    decide
  nonempty := List.append_ne_nil_of_left_ne_nil callee.chars_ne_nil _
  unlabeled := callee.splitLabel?_chars _

/-- A method that is called with one operand stands behind what it is called on. -/
theorem text_method (name : Identifier) (action : Identifier) (operand : Operand) :
    (Operand.call (.method name action) [.plain operand]).text =
      caseText name ++ '.' :: (action.chars ++ '(' :: (operand.text ++ [')'])) :=
  List.append_assoc (caseText name) (caseText action) _

/-- A method is not called in the name that stands before it. -/
theorem dropStart?_method (word : List Char) (noDot : '.' ∉ word) (needed : '(' ∈ word)
    (name : Identifier) (rest : List Char) :
    dropStart? ('.' :: word) (caseText name ++ '.' :: rest) = none := by
  show (if '.' = '.' then dropStart? word (name.chars ++ '.' :: rest) else none) = none
  rw [if_pos rfl, dropStart?_append_cons noDot,
    dropStart?_eq_none needed (name.not_mem_chars (by decide)), Option.map_none]

theorem startsWith_method {word : String} {start : List Char} (dotted : word.toList = '.' :: start)
    (noDot : '.' ∉ start) (needed : '(' ∈ start) (name : Identifier) (rest : List Char) :
    startsWith word (caseText name ++ '.' :: rest) = false := by
  rw [startsWith_eq_isSome, dotted, dropStart?_method start noDot needed, Option.isSome_none]

/-- The text between the parentheses of a call in which all parentheses are closed. -/
theorem callInner?_chars (callee : Callee) {inner : List Char} (inside : Balanced '(' ')' inner) :
    callInner? (callee.chars ++ '(' :: (inner ++ [')'])) = some inner := by
  have noOpening : '(' ∉ callee.chars := fun member ↦
    ne_of_isTokenPart (callee.isTokenPart_chars _ member) (by decide) rfl
  rw [callInner?, between?, splitFirst?_append noOpening, Option.bind_some,
    inside.splitClosing?_eq (by decide), Option.map_some]

/-- The arguments of a call are what stands between its parentheses. -/
theorem callInner?_call (callee : Callee) {slots : List Slot}
    (flat : ∀ slot ∈ slots, slot.operand.Flat) :
    callInner? (Operand.call callee slots).text = some (slotsText slots) :=
  callInner?_chars callee (balanced_of_forall (flat_slotsText flat))

/-! ## Finding arguments -/

/-- Whether a slot has a given label. -/
def Slot.hasLabel (label : String) (slot : Slot) : Bool :=
  slot.label.map Identifier.string == some label

/-- The first operand with a given label. -/
def operand? (slots : List Slot) (label : String) : Option Operand :=
  (slots.find? (Slot.hasLabel label)).map Slot.operand

/-- The first operand without a label. -/
def plainOperand? (slots : List Slot) : Option Operand :=
  (slots.find? fun slot ↦ slot.label.isNone).map Slot.operand

section Find

variable (slots first second : List Slot) (wanted : String) (label : Identifier)
  (operand : Operand) (optional : Option Operand)

@[simp] theorem operand?_plain :
    operand? (.plain operand :: slots) wanted = operand? slots wanted :=
  rfl

@[simp] theorem operand?_append :
    operand? (first ++ second) wanted = (operand? first wanted).or (operand? second wanted) := by
  rw [operand?, List.find?_append, Option.map_or]
  rfl

@[simp] theorem operand?_labeled :
    operand? (labeled label optional) wanted =
      if label.string = wanted then optional else none := by
  cases optional with
  | none => exact (ite_self none).symm
  | some operand =>
    show (([⟨some label, operand⟩] : List Slot).find? (Slot.hasLabel wanted)).map Slot.operand = _
    split
    · next same =>
      have found : Slot.hasLabel wanted ⟨some label, operand⟩ = true :=
        beq_iff_eq.mpr (congrArg some same)
      rw [List.find?_cons_of_pos found]
      rfl
    · next other =>
      have missed : ¬Slot.hasLabel wanted ⟨some label, operand⟩ = true := fun found ↦
        other (Option.some.inj (beq_iff_eq.mp found))
      rw [List.find?_cons_of_neg missed]
      rfl

@[simp] theorem operand?_positional : operand? (positional optional) wanted = none := by
  cases optional with
  | none => rfl
  | some operand => rfl

@[simp] theorem plainOperand?_plain : plainOperand? (.plain operand :: slots) = some operand :=
  rfl

@[simp] theorem plainOperand?_append :
    plainOperand? (first ++ second) = (plainOperand? first).or (plainOperand? second) := by
  rw [plainOperand?, List.find?_append, Option.map_or]
  rfl

@[simp] theorem plainOperand?_positional : plainOperand? (positional optional) = optional := by
  cases optional with
  | none => rfl
  | some operand => rfl

@[simp] theorem plainOperand?_labeled : plainOperand? (labeled label optional) = none := by
  cases optional with
  | none => rfl
  | some operand => rfl

end Find

section Read

variable {slots : List Slot} {trailing : List View}

theorem labeled?_argumentsOfSlots {α : Type} (read : List Char → Option α) (label : String) :
    (((argumentsOfSlots slots trailing).labeled? label).bind fun argument ↦ read argument.text) =
      (operand? slots label).bind fun operand ↦ read operand.text := by
  rw [Arguments.labeled?, argumentsOfSlots, List.find?_map, operand?, Option.bind_map,
    Option.bind_map]
  rfl

theorem isSome_labeled?_argumentsOfSlots (label : String) :
    ((argumentsOfSlots slots trailing).labeled? label).isSome = (operand? slots label).isSome := by
  rw [Arguments.labeled?, argumentsOfSlots, List.find?_map, operand?, Option.isSome_map,
    Option.isSome_map]
  rfl

@[simp] theorem labeledNumber?_argumentsOfSlots (label : String) :
    (argumentsOfSlots slots trailing).labeledNumber? label =
      (operand? slots label).bind fun operand ↦ Number.first? operand.text :=
  labeled?_argumentsOfSlots Number.first? label

@[simp] theorem labeledToken?_argumentsOfSlots (label : String) :
    (argumentsOfSlots slots trailing).labeledToken? label =
      (operand? slots label).bind fun operand ↦ token? operand.text :=
  labeled?_argumentsOfSlots token? label

theorem firstUnlabeled?_argumentsOfSlots {α : Type} (read : List Char → Option α) :
    ((argumentsOfSlots slots trailing).firstUnlabeled?.bind fun argument ↦ read argument.text) =
      (plainOperand? slots).bind fun operand ↦ read operand.text := by
  have unlabeled : (fun argument : Argument ↦ argument.label.isNone) ∘ Slot.argument =
      fun slot ↦ slot.label.isNone :=
    funext fun slot ↦ Option.isNone_map
  rw [Arguments.firstUnlabeled?, Arguments.unlabeled, List.head?_filter, argumentsOfSlots,
    List.find?_map, unlabeled, plainOperand?, Option.bind_map, Option.bind_map]
  rfl

@[simp] theorem first?_argumentsOfSlots (operand : Operand) :
    (argumentsOfSlots (.plain operand :: slots) trailing).first? =
      some ⟨none, operand.text, none⟩ :=
  rfl

/-- Operands that are read as what they were made from are read so when they may be left out. -/
theorem bind_read {α β : Type} {make : α → Operand} {read : List Char → Option β} {value : α → β}
    (reads : ∀ made, read (make made).text = some (value made)) (optional : Option α) :
    ((optional.map make).bind fun operand ↦ read operand.text) = optional.map value := by
  cases optional with
  | none => rfl
  | some made => exact reads made

end Read

/-! ## Reading operands -/

theorem first?_number (numeral : Numeral) :
    Number.first? (Operand.number numeral).text = some numeral.value :=
  numeral.first?_text

theorem stringLiteral?_string (content : String) :
    stringLiteral? (Operand.string content).text = some content :=
  stringLiteral?_literal content

theorem isQuoted_string (content : String) : isQuoted (Operand.string content).text = true :=
  isQuoted_literal content

theorem firstString?_argumentsOfSlots (content : String) (slots : List Slot)
    (trailing : List View) :
    (argumentsOfSlots (.plain (.string content) :: slots) trailing).firstString? =
      some content := by
  have quoted : Argument.isQuoted ⟨none, (Operand.string content).text, none⟩ = true :=
    isQuoted_string content
  show ((⟨none, (Operand.string content).text, none⟩ :: _ : List Argument).find?
    Argument.isQuoted).bind _ = _
  rw [List.find?_cons_of_pos quoted]
  exact stringLiteral?_string content

theorem token?_dot (name : Identifier) : token? (Operand.dot name).text = some name.string :=
  token?_caseText name

end ViewPreview.Spelling
