import ViewPreview.Call.Argument
import ViewPreview.Proofs.Call.Nesting
import ViewPreview.Proofs.Text.Comment
import ViewPreview.Proofs.Text.Identifier

/-!
# Writing and Reading Arguments

Argument lists are written with a comma and a space between arguments and a colon and a space behind
a label.  An argument list of values that hold neither parentheses nor braces is read back as it was
written.
-/

namespace ViewPreview.Call

open ViewPreview.Text

/-! ## Values -/

/-- Whether a text can stand as an argument: nothing in it separates arguments or is a label. -/
structure IsArgument (text : List Char) : Prop where
  unsplit : Unsplit ',' {} {} text
  trimmed : Trimmed text
  nonempty : text ≠ []
  unlabeled : splitLabel? text = none

/-- Whether a text is the value of an argument: nothing in it separates arguments or is a label, and
it holds neither parentheses nor braces. -/
structure IsValue (text : List Char) : Prop where
  unsplit : Unsplit ',' {} {} text
  trimmed : Trimmed text
  nonempty : text ≠ []
  unlabeled : splitLabel? text = none
  flat : ∀ c ∈ text, c ∉ ['(', ')', '{', '}']
  commentless : Commentless text

theorem IsValue.isArgument {text : List Char} (isValue : IsValue text) : IsArgument text :=
  ⟨isValue.unsplit, isValue.trimmed, isValue.nonempty, isValue.unlabeled⟩

/-- The characters of names, numerals and ranges. -/
def isTokenPart (c : Char) : Bool :=
  isIdentifierPart c || c == '-' || c == '.' || c == '<'

theorem ne_of_isTokenPart {c d : Char} (part : isTokenPart c = true)
    (other : isTokenPart d = false) : c ≠ d := by
  intro same
  rw [same, other] at part
  exact Bool.noConfusion part

theorem not_isBlank_of_isTokenPart {c : Char} (part : isTokenPart c = true) :
    isBlank c = false := by
  simp only [isTokenPart, Bool.or_eq_true, beq_iff_eq] at part
  rcases part with ((part | rfl) | rfl) | rfl
  · exact not_isBlank_of_isIdentifierPart part
  · decide
  · decide
  · decide

theorem not_isDelimiter_of_isTokenPart {c : Char} (part : isTokenPart c = true) :
    isDelimiter c = false := by
  have absent (d : Char) (other : isTokenPart d = false) : (c == d) = false :=
    beq_eq_false_iff_ne.mpr (ne_of_isTokenPart part other)
  rw [isDelimiter, absent '"' (by decide), absent '(' (by decide), absent '[' (by decide),
    absent '{' (by decide), absent ')' (by decide), absent ']' (by decide),
    absent '}' (by decide)]
  rfl

theorem flat_of_isTokenPart {c : Char} (part : isTokenPart c = true) :
    c ∉ ['(', ')', '{', '}'] := by
  have absent (d : Char) (other : isTokenPart d = false) : c ≠ d := ne_of_isTokenPart part other
  simp only [List.mem_cons, List.not_mem_nil, or_false, not_or]
  exact ⟨absent '(' (by decide), absent ')' (by decide), absent '\x7b' (by decide),
    absent '\x7d' (by decide)⟩

theorem isTokenPart_of_isIdentifierPart {c : Char} (part : isIdentifierPart c = true) :
    isTokenPart c = true := by
  rw [isTokenPart, part]
  rfl

/-- Nothing separates in a text of the characters of names, numerals and ranges. -/
theorem unsplit_of_isTokenPart {text : List Char} (all : ∀ c ∈ text, isTokenPart c = true)
    (depth : Int) : Unsplit ',' ⟨.outside, depth⟩ ⟨.outside, depth⟩ text := by
  apply unsplit_plain
  · exact fun c member ↦ not_isDelimiter_of_isTokenPart (all c member)
  · exact .inr fun member ↦ ne_of_isTokenPart (all _ member) (by decide) rfl

theorem unsplit_identifier (name : Identifier) (depth : Int) :
    Unsplit ',' ⟨.outside, depth⟩ ⟨.outside, depth⟩ name.chars := by
  apply unsplit_of_isTokenPart
  exact fun _ member ↦ isTokenPart_of_isIdentifierPart (name.isIdentifierPart_of_mem member)

/-- A text of the characters of names, numerals and ranges is a value unless it has a label. -/
theorem isValue_of_forall {text : List Char} (all : ∀ c ∈ text, isTokenPart c = true)
    (nonempty : text ≠ []) (unlabeled : splitLabel? text = none) : IsValue text where
  unsplit := unsplit_of_isTokenPart all 0
  trimmed := trimmed_of_forall fun c member ↦ not_isBlank_of_isTokenPart (all c member)
  nonempty := nonempty
  unlabeled := unlabeled
  flat c member := flat_of_isTokenPart (all c member)
  commentless := by
    apply commentless_of_forall
    intro c member
    constructor
    · exact ne_of_isTokenPart (all c member) (by decide)
    · exact ne_of_isTokenPart (all c member) (by decide)

/-! ## Labels -/

/-- A text that does not begin with a name has no label. -/
theorem splitLabel?_eq_none {c : Char} {rest : List Char} (visible : isBlank c = false)
    (noName : isIdentifierStart c = false) : splitLabel? (c :: rest) = none := by
  have trimmed : trimStart (c :: rest) = c :: rest := by
    apply trimStart_eq_self
    intro d member
    rw [← Option.some.inj member]
    exact visible
  have noIdentifier : splitIdentifier? (c :: rest) = none := by
    rw [splitIdentifier?, noName]
    rfl
  rw [splitLabel?, trimmed, noIdentifier]

/-- A name by itself is no label. -/
theorem splitLabel?_identifier (name : Identifier) : splitLabel? name.chars = none := by
  have split := name.splitIdentifier?_append (stops_nil _)
  rw [List.append_nil] at split
  rw [splitLabel?, trimStart_eq_self name.trimmed_chars.first, split]
  rfl

theorem splitLabel?_blank (text : List Char) : splitLabel? (' ' :: text) = splitLabel? text := by
  rw [splitLabel?, trimStart_cons_of_isBlank (by decide), ← splitLabel?]

/-- A blank in front of an argument is not part of it. -/
theorem ofText_blank (text : List Char) : Argument.ofText (' ' :: text) = Argument.ofText text := by
  rw [Argument.ofText, splitLabel?_blank, trim_cons_of_isBlank (by decide), ← Argument.ofText]

/-! ## Arguments -/

/-- An argument as it is spelled: its label, and the text of its value. -/
structure SpelledArgument where
  label : Option Identifier
  value : List Char
  isArgument : IsArgument value

namespace SpelledArgument

/-- The text of an argument. -/
def text (spelled : SpelledArgument) : List Char :=
  match spelled.label with
  | none => spelled.value
  | some label => label.chars ++ ':' :: ' ' :: spelled.value

/-- The argument that is read. -/
def argument (spelled : SpelledArgument) : Argument :=
  { label := spelled.label.map Identifier.string
    text := spelled.value }

variable (spelled : SpelledArgument)

theorem ofText_text : Argument.ofText spelled.text = spelled.argument := by
  obtain ⟨label, value, isArgument⟩ := spelled
  cases label with
  | none =>
    show Argument.ofText value = _
    rw [Argument.ofText, isArgument.unlabeled, isArgument.trimmed.trim_eq]
    rfl
  | some label =>
    have colon : isIdentifierPart ':' = false := by decide
    have split : splitIdentifier? (label.chars ++ ':' :: ' ' :: value) =
        some (label.chars, ':' :: ' ' :: value) :=
      label.splitIdentifier?_append (stops_cons.mpr colon)
    have labeled : splitLabel? (label.chars ++ ':' :: ' ' :: value) =
        some (label.string, ' ' :: value) := by
      rw [splitLabel?, trimStart_identifier, split]
      rfl
    show Argument.ofText (label.chars ++ ':' :: ' ' :: value) = _
    rw [Argument.ofText, labeled]
    show Argument.mk _ (trim (' ' :: value)) none = _
    rw [trim_cons_of_isBlank (by decide), isArgument.trimmed.trim_eq]
    rfl

theorem unsplit_text : Unsplit ',' {} {} spelled.text := by
  obtain ⟨label, value, isArgument⟩ := spelled
  cases label with
  | none => exact isArgument.unsplit
  | some label =>
    have name : Unsplit ',' {} {} label.chars := unsplit_identifier label 0
    have colon : Unsplit ',' {} {} [':', ' '] :=
      unsplit_plain (by simp [isDelimiter]) (Or.inr (by decide))
    exact name.append (colon.append isArgument.unsplit)

theorem trimmed_text : Trimmed spelled.text := by
  obtain ⟨label, value, isArgument⟩ := spelled
  cases label with
  | none => exact isArgument.trimmed
  | some label =>
    apply label.trimmed_chars.append label.chars_ne_nil
    intro c member
    obtain ⟨d, others, rfl⟩ := List.exists_cons_of_ne_nil isArgument.nonempty
    rw [List.getLast?_cons_cons, List.getLast?_cons_cons] at member
    exact isArgument.trimmed.last c member

theorem text_ne_nil : spelled.text ≠ [] := by
  obtain ⟨label, value, isArgument⟩ := spelled
  cases label with
  | none => exact isArgument.nonempty
  | some label => exact List.append_ne_nil_of_left_ne_nil label.chars_ne_nil _

theorem isEmpty_text : (!spelled.text.isEmpty) = true := by
  rw [Bool.not_eq_true', Bool.eq_false_iff]
  intro empty
  exact spelled.text_ne_nil (List.isEmpty_iff.mp empty)

end SpelledArgument

/-- An argument to be written. -/
structure WrittenArgument where
  label : Option Identifier
  value : List Char
  isValue : IsValue value

namespace WrittenArgument

/-- An argument as it is written. -/
def text (written : WrittenArgument) : List Char :=
  match written.label with
  | none => written.value
  | some label => label.chars ++ ':' :: ' ' :: written.value

/-- The argument that is read. -/
def argument (written : WrittenArgument) : Argument :=
  { label := written.label.map Identifier.string
    text := written.value }

/-- An argument without a label. -/
def plain {value : List Char} (isValue : IsValue value) : WrittenArgument :=
  ⟨none, value, isValue⟩

/-- An argument with a label. -/
def labeled (label : Identifier) {value : List Char} (isValue : IsValue value) : WrittenArgument :=
  ⟨some label, value, isValue⟩

/-- A written argument, spelled. -/
def spelled (written : WrittenArgument) : SpelledArgument :=
  ⟨written.label, written.value, written.isValue.isArgument⟩

variable (written : WrittenArgument)

theorem text_spelled : written.spelled.text = written.text := by
  obtain ⟨label, value, isValue⟩ := written
  cases label with
  | none => rfl
  | some label => rfl

theorem flat_text : ∀ c ∈ written.text, c ∉ ['(', ')', '{', '}'] := by
  obtain ⟨label, value, isValue⟩ := written
  cases label with
  | none => exact isValue.flat
  | some label =>
    have name : ∀ c ∈ label.chars, c ∉ ['(', ')', '{', '}'] := by
      intro c member
      apply flat_of_isTokenPart
      exact isTokenPart_of_isIdentifierPart (label.isIdentifierPart_of_mem member)
    have colon : ∀ c ∈ [':', ' '], c ∉ ['(', ')', '{', '}'] := by simp
    exact List.forall_mem_append.mpr ⟨name, List.forall_mem_append.mpr ⟨colon, isValue.flat⟩⟩

theorem commentless_text : Commentless written.text := by
  obtain ⟨label, value, isValue⟩ := written
  cases label with
  | none => exact isValue.commentless
  | some label =>
    have name : Commentless label.chars := by
      apply commentless_of_forall
      intro c member
      have part := label.isIdentifierPart_of_mem member
      exact ⟨ne_of_isIdentifierPart part (by decide), ne_of_isIdentifierPart part (by decide)⟩
    have colon : Commentless [':', ' '] := commentless_of_all (by decide)
    exact name.append (colon.append isValue.commentless)

end WrittenArgument

/-! ## Argument lists -/

/-- Arguments as they are spelled between the parentheses of a call. -/
def spelledText : List SpelledArgument → List Char
  | [] => []
  | [last] => last.text
  | first :: others => first.text ++ ',' :: ' ' :: spelledText others

/-- Arguments as they are written between the parentheses of a call. -/
def argumentsText : List WrittenArgument → List Char
  | [] => []
  | [last] => last.text
  | first :: others => first.text ++ ',' :: ' ' :: argumentsText others

theorem spelledText_map_spelled (written : List WrittenArgument) :
    spelledText (written.map WrittenArgument.spelled) = argumentsText written := by
  fun_induction argumentsText written with
  | case1 => rfl
  | case2 last => exact last.text_spelled
  | case3 first others several ih =>
    rw [List.map_cons, spelledText, first.text_spelled, ih]
    intro none
    exact several (List.map_eq_nil_iff.mp none)

/-- A blank in front of a text belongs to its first part. -/
theorem exists_splitFrom_blank (text : List Char) :
    ∃ part parts, splitFrom ',' {} text = part :: parts ∧
      splitFrom ',' {} (' ' :: text) = (' ' :: part) :: parts := by
  have blank : Unsplit ',' {} {} [' '] := unsplit_plain (by simp [isDelimiter]) (Or.inr (by decide))
  obtain ⟨part, parts, split⟩ := List.exists_cons_of_ne_nil (splitFrom_ne_nil ',' {} text)
  refine ⟨part, parts, split, ?_⟩
  rw [← List.singleton_append, blank, split]
  rfl

/-- A blank in front of an argument list is not part of it. -/
theorem argumentsOf_blank (text : List Char) : argumentsOf (' ' :: text) = argumentsOf text := by
  obtain ⟨part, parts, split, shifted⟩ := exists_splitFrom_blank text
  rw [argumentsOf, splitTopLevel, shifted, argumentsOf, splitTopLevel, split, List.filter_cons,
    List.filter_cons, trim_cons_of_isBlank (by decide)]
  split
  · rw [List.map_cons, List.map_cons, ofText_blank]
  · rfl

theorem argumentsOf_last (spelled : SpelledArgument) :
    argumentsOf spelled.text = [spelled.argument] := by
  have visible : (!(trim spelled.text).isEmpty) = true := by
    rw [spelled.trimmed_text.trim_eq]
    exact spelled.isEmpty_text
  rw [argumentsOf, splitTopLevel, spelled.unsplit_text.splitFrom_eq, List.filter_cons,
    if_pos visible, List.filter_nil, List.map_cons, spelled.ofText_text, List.map_nil]

theorem argumentsOf_cons (spelled : SpelledArgument) (rest : List Char) :
    argumentsOf (spelled.text ++ ',' :: rest) = spelled.argument :: argumentsOf rest := by
  have visible : (!(trim spelled.text).isEmpty) = true := by
    rw [spelled.trimmed_text.trim_eq]
    exact spelled.isEmpty_text
  rw [argumentsOf, splitTopLevel, spelled.unsplit_text.splitFrom_append rfl (by decide),
    List.filter_cons, if_pos visible, List.map_cons, spelled.ofText_text]
  rfl

/-- A spelled argument list is read back. -/
theorem argumentsOf_spelledText (spelled : List SpelledArgument) :
    argumentsOf (spelledText spelled) = spelled.map SpelledArgument.argument := by
  fun_induction spelledText spelled with
  | case1 => rfl
  | case2 last => exact argumentsOf_last last
  | case3 first others _ ih => rw [argumentsOf_cons, argumentsOf_blank, ih, List.map_cons]

/-- A written argument list is read back. -/
theorem argumentsOf_argumentsText (written : List WrittenArgument) :
    argumentsOf (argumentsText written) = written.map WrittenArgument.argument := by
  rw [← spelledText_map_spelled, argumentsOf_spelledText, List.map_map]
  rfl

/-- The texts between the commas of a spelled argument list. -/
theorem trimmedParts_spelledText (spelled : List SpelledArgument) :
    ((splitTopLevel ',' (spelledText spelled)).map trim).filter (fun part ↦ !part.isEmpty) =
      spelled.map SpelledArgument.text := by
  fun_induction spelledText spelled with
  | case1 => rfl
  | case2 last =>
    rw [splitTopLevel, last.unsplit_text.splitFrom_eq, List.map_cons, last.trimmed_text.trim_eq,
      List.map_nil, List.filter_cons, if_pos last.isEmpty_text, List.filter_nil, List.map_cons,
      List.map_nil]
  | case3 first others _ ih =>
    obtain ⟨part, parts, split, shifted⟩ := exists_splitFrom_blank (spelledText others)
    rw [splitTopLevel, split, List.map_cons] at ih
    rw [splitTopLevel, first.unsplit_text.splitFrom_append rfl (by decide), shifted,
      List.map_cons, List.map_cons, first.trimmed_text.trim_eq, trim_cons_of_isBlank (by decide),
      List.filter_cons, if_pos first.isEmpty_text, ih, List.map_cons]

/-- The texts between the commas of a written argument list. -/
theorem trimmedParts_argumentsText (written : List WrittenArgument) :
    ((splitTopLevel ',' (argumentsText written)).map trim).filter (fun part ↦ !part.isEmpty) =
      written.map WrittenArgument.text := by
  have texts : SpelledArgument.text ∘ WrittenArgument.spelled = WrittenArgument.text :=
    funext WrittenArgument.text_spelled
  rw [← spelledText_map_spelled, trimmedParts_spelledText, List.map_map, texts]

/-- A spelled argument list begins with its first argument. -/
theorem exists_spelledText_cons (first : SpelledArgument) (others : List SpelledArgument) :
    ∃ rest, spelledText (first :: others) = first.text ++ rest := by
  cases others with
  | nil => exact ⟨[], (List.append_nil _).symm⟩
  | cons second others => exact ⟨_, rfl⟩

theorem forall_mem_spelledText {property : Char → Prop} {spelled : List SpelledArgument}
    (comma : property ',') (blank : property ' ')
    (each : ∀ argument ∈ spelled, ∀ c ∈ argument.text, property c) :
    ∀ c ∈ spelledText spelled, property c := by
  fun_induction spelledText spelled with
  | case1 => exact fun c member ↦ nomatch member
  | case2 last => exact each last List.mem_cons_self
  | case3 first others _ ih =>
    obtain ⟨here, later⟩ := List.forall_mem_cons.mp each
    refine List.forall_mem_append.mpr ⟨here, List.forall_mem_cons.mpr ⟨comma, ?_⟩⟩
    exact List.forall_mem_cons.mpr ⟨blank, ih later⟩

theorem forall_mem_argumentsText {property : Char → Prop} {written : List WrittenArgument}
    (comma : property ',') (blank : property ' ')
    (each : ∀ argument ∈ written, ∀ c ∈ argument.text, property c) :
    ∀ c ∈ argumentsText written, property c := by
  rw [← spelledText_map_spelled]
  apply forall_mem_spelledText comma blank
  intro spelled member
  obtain ⟨argument, inside, rfl⟩ := List.mem_map.mp member
  rw [argument.text_spelled]
  exact each argument inside

theorem flat_argumentsText (written : List WrittenArgument) :
    ∀ c ∈ argumentsText written, c ∉ ['(', ')', '{', '}'] :=
  forall_mem_argumentsText (by decide) (by decide) fun argument _ ↦ argument.flat_text

theorem commentless_argumentsText (written : List WrittenArgument) :
    Commentless (argumentsText written) := by
  fun_induction argumentsText written with
  | case1 => exact commentless_nil
  | case2 last => exact last.commentless_text
  | case3 first others _ ih =>
    have comma : Commentless [',', ' '] := commentless_of_all (by decide)
    exact first.commentless_text.append (comma.append ih)

end ViewPreview.Call
