import ViewPreview.Proofs.Style.Plain
import ViewPreview.Proofs.Text.Occurrence
import ViewPreview.Proofs.Text.Span

/-!
# Reading a Style

A reader of a style splits it at the semicolons outside its strings, where a string is enclosed in
quotes and a backslash in it takes the next character literally, and splits each part at its first
colon.  A text that ends outside of strings and has no semicolon there is closed.  The written
declarations are read back exactly when every value but the last one is closed, because the string
that an open value begins goes on into the next declaration.
-/

namespace ViewPreview.Style

open ViewPreview.Text

/-- Where a reader of a style stands: outside of strings, or in a string that began with a quote, or
behind a backslash of such a string. -/
inductive Quoting where
  | outside
  | inside (quote : Char)
  | escaped (quote : Char)
deriving DecidableEq

/-- Where a reader stands after one more character. -/
def Quoting.step : Quoting → Char → Quoting
  | .outside, c => if c = '\'' ∨ c = '"' then .inside c else .outside
  | .inside quote, c =>
    if c = '\\' then .escaped quote else if c = quote then .outside else .inside quote
  | .escaped quote, _ => .inside quote

/-- The part of a text before the first semicolon outside of strings, and the parts after it. -/
def splitStyle : Quoting → List Char → List Char × List (List Char)
  | _, [] => ([], [])
  | quoting, c :: text =>
    if quoting = .outside ∧ c = ';' then
      let later := splitStyle .outside text
      ([], later.1 :: later.2)
    else
      let later := splitStyle (quoting.step c) text
      (c :: later.1, later.2)

/-- A property and its value, read off a part of a style. -/
def readDeclaration? (part : List Char) : Option Declaration :=
  (splitFirst? ':' (trimStart part)).map fun parts ↦
    ⟨String.ofList parts.1, String.ofList (trimStart parts.2)⟩

/-- The declarations that are read from a place outside of strings. -/
def readFrom (text : List Char) : List Declaration :=
  ((splitStyle .outside text).1 :: (splitStyle .outside text).2).filterMap readDeclaration?

/-- The declarations of a style. -/
def readStyle (style : String) : List Declaration :=
  readFrom style.toList

/-- Where a reader stands after a text, if no declaration ends in it. -/
def passes : Quoting → List Char → Option Quoting
  | quoting, [] => some quoting
  | quoting, c :: text =>
    if quoting = .outside ∧ c = ';' then none else passes (quoting.step c) text

/-- A text that neither ends a declaration nor leaves a string open. -/
def Closed (text : String) : Prop :=
  passes .outside text.toList = some .outside

instance (text : String) : Decidable (Closed text) :=
  inferInstanceAs (Decidable (passes .outside text.toList = some .outside))

/-! ## Passing over texts -/

section Passing

variable {quoting next : Quoting} {text rest : List Char} {c : Char}

theorem passes_append (first : passes quoting text = some next) :
    passes quoting (text ++ rest) = passes next rest := by
  induction text generalizing quoting with
  | nil => rw [List.nil_append, Option.some.inj first]
  | cons c text ih =>
    rw [passes] at first
    rw [List.cons_append, passes]
    split at first
    · cases first
    · next goesOn => rw [if_neg goesOn, ih first]

/-- A text that is passed over belongs to the first part. -/
theorem splitStyle_append (first : passes quoting text = some next) :
    splitStyle quoting (text ++ rest) =
      (text ++ (splitStyle next rest).1, (splitStyle next rest).2) := by
  induction text generalizing quoting with
  | nil => rw [List.nil_append, Option.some.inj first, List.nil_append]
  | cons c text ih =>
    rw [passes] at first
    rw [List.cons_append, splitStyle]
    split at first
    · cases first
    · next goesOn => rw [if_neg goesOn, ih first, List.cons_append]

theorem passes_outside (all : ∀ c ∈ text, c ≠ ';' ∧ c ≠ '\'' ∧ c ≠ '"') :
    passes .outside text = some .outside := by
  induction text with
  | nil => rfl
  | cons c text ih =>
    obtain ⟨⟨noEnd, noApostrophe, noQuote⟩, others⟩ := List.forall_mem_cons.mp all
    have stays : Quoting.outside.step c = .outside := if_neg (not_or.mpr ⟨noApostrophe, noQuote⟩)
    rw [passes, if_neg (fun ends ↦ noEnd ends.2), stays, ih others]

theorem passes_of_isPlain (all : ∀ c ∈ text, isPlain c = true) :
    passes .outside text = some .outside :=
  passes_outside fun c member ↦ ⟨ne_of_isPlain (all c member) (by decide),
    ne_of_isPlain (all c member) (by decide), ne_of_isPlain (all c member) (by decide)⟩

theorem closed_of_plain {text : String} (plain : Plain text) : Closed text :=
  passes_of_isPlain (consists_iff.mp plain)

end Passing

/-! ## Declarations -/

/-- A declaration as it is meant to be read: a word, and a value that begins with a character other
than a blank and does not end the declaration. -/
structure Declaration.Readable (declaration : Declaration) : Prop where
  property : Worded declaration.property
  begins : Begins declaration.value
  goesOn : ∃ next, passes .outside declaration.value.toList = some next

section Declarations

variable {declaration : Declaration} {declarations : List Declaration}

theorem Declaration.toList_write (declaration : Declaration) :
    declaration.write.toList =
      declaration.property.toList ++ ':' :: ' ' :: declaration.value.toList := by
  simp [Declaration.write, String.toList_append]

/-- A property and what stands behind its colon are read back. -/
theorem readDeclaration?_write (readable : declaration.Readable) (rest : List Char) :
    readDeclaration? (declaration.write.toList ++ rest) =
      some ⟨declaration.property, declaration.value ++ String.ofList rest⟩ := by
  have inWord := consists_iff.mp readable.property
  obtain ⟨c, others, same, visible⟩ := readable.begins
  have absent : ':' ∉ declaration.property.toList := by
    intro member
    exact absurd (inWord ':' member) (by decide)
  have start : trimStart (declaration.write.toList ++ rest) = declaration.write.toList ++ rest := by
    apply dropWhile_eq_self_of_stops
    rw [declaration.toList_write]
    intro first member
    cases written : declaration.property.toList with
    | nil =>
      rw [written] at member
      rw [← Option.some.inj member]
      decide
    | cons d others =>
      rw [written] at member inWord
      rw [← Option.some.inj member]
      exact not_isBlank_of_isWordPart (inWord d List.mem_cons_self)
  have value : trimStart (' ' :: (declaration.value.toList ++ rest)) =
      declaration.value.toList ++ rest := by
    show (' ' :: (declaration.value.toList ++ rest)).dropWhile isBlank = _
    rw [List.dropWhile_cons_of_pos (by decide), same]
    exact dropWhile_eq_self_of_stops (stops_cons.mpr visible)
  rw [readDeclaration?, start, declaration.toList_write, List.append_assoc, List.cons_append,
    List.cons_append, splitFirst?_append absent, Option.map_some, value, String.ofList_toList,
    String.ofList_append, String.ofList_toList]

/-- A written declaration is passed over as its value is. -/
theorem passes_write (readable : declaration.Readable) :
    passes .outside declaration.write.toList = passes .outside declaration.value.toList := by
  have property : passes .outside declaration.property.toList = some .outside :=
    closed_of_plain (plain_of_worded readable.property)
  rw [declaration.toList_write, passes_append property]
  rfl

/-- A blank in front of a style is not read. -/
theorem readDeclaration?_blank (part : List Char) :
    readDeclaration? (' ' :: part) = readDeclaration? part := by
  have trimmed : trimStart (' ' :: part) = trimStart part := List.dropWhile_cons_of_pos (by decide)
  rw [readDeclaration?, readDeclaration?, trimmed]

theorem readFrom_blank (text : List Char) : readFrom (' ' :: text) = readFrom text := by
  have outside : Quoting.outside.step ' ' = .outside := by decide
  rw [readFrom, splitStyle, if_neg (by decide), outside, List.filterMap_cons,
    readDeclaration?_blank, ← List.filterMap_cons, readFrom]

/-- Behind a closed declaration its semicolon is found, and the others are read as if they stood
alone. -/
theorem readFrom_closed (readable : declaration.Readable) (closed : Closed declaration.value)
    (text : List Char) :
    readFrom (declaration.write.toList ++ ';' :: ' ' :: text) = declaration :: readFrom text := by
  have passed := (passes_write readable).trans closed
  have behind : splitStyle .outside (';' :: ' ' :: text) =
      ([], (splitStyle .outside (' ' :: text)).1 :: (splitStyle .outside (' ' :: text)).2) := rfl
  have first := readDeclaration?_write readable []
  rw [String.ofList_nil, String.append_empty] at first
  rw [readFrom, splitStyle_append passed, behind, List.filterMap_cons_some first, ← readFrom,
    readFrom_blank]

/-- Behind an open declaration the semicolon belongs to the string that the value began. -/
theorem readFrom_open (readable : declaration.Readable) (opens : ¬ Closed declaration.value)
    (text : List Char) :
    ∃ rest others, readFrom (declaration.write.toList ++ ';' :: text) =
      ⟨declaration.property, declaration.value ++ String.ofList (';' :: rest)⟩ :: others := by
  obtain ⟨next, goesOn⟩ := readable.goesOn
  have inString : next ≠ .outside := by
    rintro rfl
    exact opens goesOn
  have passed := (passes_write readable).trans goesOn
  have behind : splitStyle next (';' :: text) =
      (';' :: (splitStyle (next.step ';') text).1, (splitStyle (next.step ';') text).2) := by
    rw [splitStyle, if_neg fun ends ↦ inString ends.1]
  refine ⟨(splitStyle (next.step ';') text).1,
    (splitStyle (next.step ';') text).2.filterMap readDeclaration?, ?_⟩
  rw [readFrom, splitStyle_append passed, behind,
    List.filterMap_cons_some (readDeclaration?_write readable _)]

/-- The last declaration is read to the end of the text, whether it is closed or not. -/
theorem readFrom_last (readable : declaration.Readable) :
    readFrom declaration.write.toList = [declaration] := by
  obtain ⟨next, goesOn⟩ := readable.goesOn
  have passed := (passes_write readable).trans goesOn
  have first := readDeclaration?_write readable []
  rw [String.ofList_nil, String.append_empty] at first
  have whole :
      splitStyle .outside declaration.write.toList = (declaration.write.toList ++ [], []) := by
    rw [← List.append_nil declaration.write.toList, splitStyle_append passed, List.append_nil,
      splitStyle]
  rw [readFrom, whole, List.filterMap_cons_some first, List.filterMap_nil]

/-- Written declarations are read back exactly when all but the last one are closed. -/
theorem readStyle_intercalate_iff (readable : ∀ entry ∈ declarations, entry.Readable) :
    readStyle ("; ".intercalate (declarations.map Declaration.write)) = declarations ↔
      ∀ entry ∈ declarations.dropLast, Closed entry.value := by
  unfold readStyle
  induction declarations with
  | nil => simp [readFrom, splitStyle, readDeclaration?, trimStart, splitFirst?]
  | cons first others ih =>
    obtain ⟨readableFirst, readableOthers⟩ := List.forall_mem_cons.mp readable
    cases others with
    | nil =>
      rw [List.map_cons, List.map_nil, String.intercalate_singleton, readFrom_last readableFirst]
      simp
    | cons second others =>
      have written : ("; ".intercalate ((first :: second :: others).map Declaration.write)).toList =
          first.write.toList ++ ';' :: ' ' ::
            ("; ".intercalate ((second :: others).map Declaration.write)).toList := by
        simp [String.intercalate_cons_cons, String.toList_append]
      rw [written, List.dropLast_cons_cons, List.forall_mem_cons, ← ih readableOthers]
      by_cases closed : Closed first.value
      · rw [readFrom_closed readableFirst closed]
        simp [closed]
      · obtain ⟨rest, behind, reads⟩ := readFrom_open readableFirst closed
          (' ' :: ("; ".intercalate ((second :: others).map Declaration.write)).toList)
        rw [reads]
        constructor
        · intro same
          have value := congrArg Declaration.value (List.cons.inj same).1
          simp at value
        · intro both
          exact absurd both.1 closed

end Declarations

end ViewPreview.Style
