import ViewPreview.Call.Constructor
import ViewPreview.Proofs.Call.Quoting
import ViewPreview.Proofs.Call.Splitting
import ViewPreview.Proofs.Html.Inert
import ViewPreview.Proofs.Html.Place
import ViewPreview.Proofs.Render.Repetition
import ViewPreview.Proofs.Spelling.Argument

/-!
# Strings From Their Literals to the Page

A string literal stays what it is from the argument list to the markup.  It is one argument wherever
it stands between commas, with or without a label and with blanks around it, because each reader
passes over what is inside it; it is read as the string, a text view made with it holds the string,
and the span that shows the view holds it with its entities.
-/

namespace ViewPreview.Spelling

open ViewPreview.Text ViewPreview.Call ViewPreview.Render

/-! ## Argument lists in parts -/

/-- Whether all literals and brackets of a text are closed. -/
def Complete (text : List Char) : Prop :=
  Place.afterAll {} text = {}

variable {front : List Char}

/-- The arguments on both sides of a comma. -/
theorem argumentsOf_append_comma (complete : Complete front) (rest : List Char) :
    argumentsOf (front ++ ',' :: rest) = argumentsOf front ++ argumentsOf rest := by
  have top : (Place.afterAll {} front).isTop = true := by
    rw [show Place.afterAll {} front = {} from complete]
    rfl
  rw [argumentsOf, splitTopLevel, splitFrom_append_separator (by decide) top,
    show Place.afterAll {} front = {} from complete, List.filter_append, List.map_append]
  rfl

/-- The arguments of the first parts of an argument list come before those of the others. -/
theorem argumentsOf_intercalate_append {first others : List (List Char)}
    (complete : ∀ part ∈ first, Complete part) (nonempty : others ≠ []) :
    argumentsOf ([','].intercalate (first ++ others)) =
      first.flatMap argumentsOf ++ argumentsOf ([','].intercalate others) := by
  induction first with
  | nil => rfl
  | cons part first ih =>
    obtain ⟨here, later⟩ := List.forall_mem_cons.mp complete
    have several : first ++ others ≠ [] := List.append_ne_nil_of_right_ne_nil _ nonempty
    rw [List.cons_append, List.intercalate_cons_of_ne_nil several, List.append_assoc,
      List.singleton_append, argumentsOf_append_comma here, ih later, List.flatMap_cons,
      List.append_assoc]

/-- An argument list has the arguments of its parts. -/
theorem argumentsOf_intercalate {parts : List (List Char)}
    (complete : ∀ part ∈ parts, Complete part) :
    argumentsOf ([','].intercalate parts) = parts.flatMap argumentsOf := by
  rcases List.eq_nil_or_concat parts with rfl | ⟨first, last, rfl⟩
  · rfl
  · rw [List.concat_eq_append] at complete ⊢
    have inFirst : ∀ part ∈ first, Complete part := fun part member ↦
      complete part (List.mem_append_left _ member)
    rw [argumentsOf_intercalate_append inFirst (List.cons_ne_nil _ _), List.flatMap_append]
    simp

/-! ## Arguments with blanks -/

/-- Blanks around the parts of an argument. -/
structure Spacing where
  before : List Char
  between : List Char
  behind : List Char
  after : List Char
  isBlank_of_mem : ∀ c ∈ before ++ between ++ behind ++ after, isBlank c = true

/-- An argument with blanks around its label and its value. -/
def spacedText (spacing : Spacing) (label : Option Identifier) (value : List Char) : List Char :=
  match label with
  | none => spacing.before ++ (value ++ spacing.after)
  | some label =>
    spacing.before ++ (label.chars ++ (spacing.between ++
      ':' :: (spacing.behind ++ (value ++ spacing.after))))

theorem not_isDelimiter_of_isBlank {c : Char} (blank : isBlank c = true) :
    isDelimiter c = false := by
  have absent {d : Char} (visible : isBlank d = false) : (c == d) = false := by
    rw [beq_eq_false_iff_ne]
    intro same
    rw [same, visible] at blank
    exact Bool.noConfusion blank
  rw [isDelimiter, absent (by decide : isBlank '"' = false),
    absent (by decide : isBlank '(' = false), absent (by decide : isBlank '[' = false),
    absent (by decide : isBlank '{' = false), absent (by decide : isBlank ')' = false),
    absent (by decide : isBlank ']' = false), absent (by decide : isBlank '}' = false)]
  rfl

/-- Blanks separate no arguments. -/
theorem unsplit_of_isBlank {text : List Char} (blank : ∀ c ∈ text, isBlank c = true) :
    Unsplit ',' {} {} text :=
  unsplit_plain (fun c member ↦ not_isDelimiter_of_isBlank (blank c member))
    (.inr fun member ↦ absurd (blank ',' member) (by decide))

namespace Spacing

variable (spacing : Spacing)

theorem isBlank_before : ∀ c ∈ spacing.before, isBlank c = true := fun c member ↦
  spacing.isBlank_of_mem c (by simp [member])

theorem isBlank_between : ∀ c ∈ spacing.between, isBlank c = true := fun c member ↦
  spacing.isBlank_of_mem c (by simp [member])

theorem isBlank_behind : ∀ c ∈ spacing.behind, isBlank c = true := fun c member ↦
  spacing.isBlank_of_mem c (by simp [member])

theorem isBlank_after : ∀ c ∈ spacing.after, isBlank c = true := fun c member ↦
  spacing.isBlank_of_mem c (by simp [member])

end Spacing

section Spaced

variable (spacing : Spacing) (label : Option Identifier) (content : String)

/-- Nothing separates in a string literal with a label and blanks. -/
theorem unsplit_spacedText : Unsplit ',' {} {} (spacedText spacing label (literal content)) := by
  have before := unsplit_of_isBlank spacing.isBlank_before
  have value := (unsplit_literal ',' 0 content).append (unsplit_of_isBlank spacing.isBlank_after)
  cases label with
  | none => exact before.append value
  | some label =>
    have name : Unsplit ',' {} {} label.chars := unsplit_identifier label 0
    have colon : Unsplit ',' {} {} [':'] := unsplit_plain (by simp [isDelimiter]) (.inr (by decide))
    have labeled := colon.append ((unsplit_of_isBlank spacing.isBlank_behind).append value)
    exact before.append (name.append ((unsplit_of_isBlank spacing.isBlank_between).append labeled))

theorem splitLabel?_unlabeled :
    splitLabel? (spacedText spacing none (literal content)) = none := by
  have quote : Stops isBlank (literal content ++ spacing.after) := stops_cons.mpr (by decide)
  have trimmed : trimStart (spacing.before ++ (literal content ++ spacing.after)) =
      literal content ++ spacing.after := dropWhile_append_of_stops spacing.isBlank_before quote
  have noName : splitIdentifier? (literal content ++ spacing.after) = none := rfl
  rw [spacedText, splitLabel?, trimmed, noName]

theorem splitLabel?_labeled (label : Identifier) :
    splitLabel? (spacedText spacing (some label) (literal content)) =
      some (label.string, spacing.behind ++ (literal content ++ spacing.after)) := by
  have trimmed (rest : List Char) : trimStart (spacing.before ++ (label.chars ++ rest)) =
      label.chars ++ rest :=
    (List.dropWhile_append_of_pos spacing.isBlank_before).trans (trimStart_identifier label rest)
  have colon (rest : List Char) : trimStart (spacing.between ++ ':' :: rest) = ':' :: rest :=
    dropWhile_append_of_stops spacing.isBlank_between (stops_cons.mpr (by decide))
  have ends (rest : List Char) : Stops isIdentifierPart (spacing.between ++ ':' :: rest) := by
    apply stops_append _ (stops_cons.mpr (by decide))
    exact fun c member ↦ not_isIdentifierPart_of_isBlank (spacing.isBlank_between c member)
  rw [spacedText, splitLabel?, trimmed, label.splitIdentifier?_append (ends _)]
  simp only [colon]
  rfl

/-- Blanks around a string literal and its label are not part of the argument. -/
theorem ofText_spacedText :
    Argument.ofText (spacedText spacing label (literal content)) =
      ⟨label.map Identifier.string, literal content, none⟩ := by
  have nonempty : literal content ≠ [] := List.cons_ne_nil _ _
  have trimmed := trimmed_literal content
  cases label with
  | none =>
    rw [Argument.ofText, splitLabel?_unlabeled, spacedText,
      trimmed.trim_append nonempty spacing.isBlank_before spacing.isBlank_after]
    rfl
  | some label =>
    rw [Argument.ofText, splitLabel?_labeled]
    simp only [trimmed.trim_append nonempty spacing.isBlank_behind spacing.isBlank_after,
      Option.map_some]

/-- A string literal with blanks and perhaps a label is one argument. -/
theorem argumentsOf_spacedText :
    argumentsOf (spacedText spacing label (literal content)) =
      [⟨label.map Identifier.string, literal content, none⟩] := by
  have visible : (!(trim (spacedText spacing label (literal content))).isEmpty) = true := by
    have quote : '"' ∈ spacedText spacing label (literal content) := by
      cases label with
      | none => simp [spacedText, literal]
      | some label => simp [spacedText, literal]
    rw [Bool.not_eq_true', Bool.eq_false_iff]
    intro empty
    have blank := trim_eq_nil_iff.mp (List.isEmpty_iff.mp empty) '"' quote
    exact absurd blank (by decide)
  rw [argumentsOf, splitTopLevel, (unsplit_spacedText spacing label content).splitFrom_eq,
    List.filter_cons, if_pos visible, List.filter_nil, List.map_cons, ofText_spacedText,
    List.map_nil]

/-- A string literal among other arguments is one argument, and the others are what they are. -/
theorem argumentsOf_intercalate_spacedText {front back : List (List Char)}
    (complete : ∀ part ∈ front ++ back, Complete part) :
    argumentsOf ([','].intercalate (front ++ spacedText spacing label (literal content) :: back)) =
      front.flatMap argumentsOf ++
        ⟨label.map Identifier.string, literal content, none⟩ :: back.flatMap argumentsOf := by
  obtain ⟨before, behind⟩ := List.forall_mem_append.mp complete
  have alone := argumentsOf_spacedText spacing label content
  rw [argumentsOf_intercalate_append before (List.cons_ne_nil _ _), List.append_cancel_left_eq]
  cases back with
  | nil => rw [List.intercalate_singleton, alone]; rfl
  | cons second back =>
    have whole := (unsplit_spacedText spacing label content).splitFrom_append rfl
      (by decide : isDelimiter ',' = false) ([','].intercalate (second :: back))
    have first := (unsplit_spacedText spacing label content).splitFrom_eq
    rw [List.intercalate_cons_cons, List.append_assoc, List.singleton_append,
      ← argumentsOf_intercalate behind]
    rw [argumentsOf, splitTopLevel, first] at alone
    rw [argumentsOf, splitTopLevel, whole, ← List.singleton_append, List.filter_append,
      List.map_append, alone]
    rfl

end Spaced

/-! ## Text views -/

/-- A text view made with some arguments holds a string as its text, and its markup is a span with
the string in entities, in which nothing is markup. -/
structure ShowsString (content : String) (arguments : List Char) : Prop where
  property : (build .text (Arguments.ofText arguments) []).property? "text" = some (.text content)
  span : ∀ options : RenderOptions, ∃ attributes written : String,
    render options (build .text (Arguments.ofText arguments) []) =
        "<span" ++ attributes ++ ">" ++ written ++ "</span>" ∧
      Html.Inert written ∧ Html.decode written = content

/-- The markup of a text view. -/
theorem render_ofText (options : RenderOptions) (content : String) :
    render options (View.ofText content) =
      "<span" ++ Html.writeAttributes (openingAttributes (View.ofText content) options "") ++ ">" ++
        Html.escape content ++ "</span>" := by
  have element : viewNode options (View.ofText content) =
      plainElement options "span" (View.ofText content) [.text content] := by
    rw [viewNode, wrap_of_unmodified rfl]
    rfl
  have opening : "<" ++ "span" = "<span" := by decide
  have closing : "</" ++ ("span" ++ ">") = "</span>" := by decide
  rw [render, element, plainElement, viewElement, List.append_nil, Html.Node.write,
    Html.writeNodes, Html.writeNodes, Html.Node.write, opening, String.append_empty]
  simp only [String.append_assoc, closing]

theorem showsString_of_shownText {content : String} {arguments : List Char}
    (shown : shownText (Arguments.ofText arguments) = content) :
    ShowsString content arguments := by
  have made : build .text (Arguments.ofText arguments) [] = View.ofText content := by
    rw [← shown]
    rfl
  refine ⟨by rw [made]; rfl, fun options ↦ ?_⟩
  rw [made]
  exact ⟨_, _, render_ofText options content, Html.inert_escape content,
    Html.decode_escape content⟩

/-- The argument that a text view shows is read as a string when it is a literal. -/
theorem shownText_of_literal {arguments : Arguments} {content : String} (label : Option String)
    (chosen : arguments.firstUnlabeled?.or (arguments.labeled? "verbatim") =
      some ⟨label, literal content, none⟩) : shownText arguments = content := by
  have quoted : Argument.isQuoted ⟨label, literal content, none⟩ = true := isQuoted_literal content
  rw [shownText, chosen]
  simp only [quoted, if_true, stringLiteral?_literal, Option.getD_some]

/-! ## The arguments that readers choose -/

section Choice

variable {before after : List Call.Argument} {argument : Call.Argument} {name : String}

theorem find?_append_cons {condition : Call.Argument → Bool}
    (none : ∀ other ∈ before, ¬condition other = true) (found : condition argument = true) :
    (before ++ argument :: after).find? condition = some argument := by
  rw [List.find?_append, List.find?_eq_none.mpr none, Option.none_or, List.find?_cons_of_pos found]

theorem firstUnlabeled?_append (unlabeled : argument.label = none)
    (labeled : ∀ other ∈ before, other.label ≠ none) :
    Arguments.firstUnlabeled? { values := before ++ argument :: after } = some argument := by
  rw [Arguments.firstUnlabeled?, Arguments.unlabeled, List.head?_filter]
  apply find?_append_cons
  · intro other member isNone
    exact labeled other member (Option.isNone_iff_eq_none.mp isNone)
  · rw [unlabeled, Option.isNone_none]

theorem firstUnlabeled?_eq_none {arguments : List Call.Argument}
    (labeled : ∀ other ∈ arguments, other.label ≠ none) :
    Arguments.firstUnlabeled? { values := arguments } = none := by
  rw [Arguments.firstUnlabeled?, Arguments.unlabeled, List.head?_filter, List.find?_eq_none]
  intro other member isNone
  exact labeled other member (Option.isNone_iff_eq_none.mp isNone)

theorem labeled?_append (isLabel : argument.label = some name)
    (others : ∀ other ∈ before, other.label ≠ some name) :
    Arguments.labeled? { values := before ++ argument :: after } name = some argument := by
  rw [Arguments.labeled?]
  apply find?_append_cons
  · intro other member same
    exact others other member (beq_iff_eq.mp same)
  · rw [isLabel, beq_self_eq_true]

theorem firstString?_append (unlabeled : argument.label = none)
    (quoted : argument.isQuoted = true)
    (unquoted : ∀ other ∈ before, other.label = none → other.isQuoted = false) :
    Arguments.firstString? { values := before ++ argument :: after } =
      stringLiteral? argument.text := by
  have found : (Arguments.unlabeled { values := before ++ argument :: after }).find?
      Argument.isQuoted = some argument := by
    rw [Arguments.unlabeled, List.find?_filter]
    apply find?_append_cons
    · intro other member both
      obtain ⟨isNone, isQuoted⟩ := of_decide_eq_true both
      rw [unquoted other member (Option.isNone_iff_eq_none.mp isNone)] at isQuoted
      exact Bool.noConfusion isQuoted
    · rw [unlabeled, quoted]
      rfl
  rw [Arguments.firstString?, found, Option.bind_some]

end Choice

/-! ## Literals among other arguments -/

/-- An argument list in which a string literal stands among other arguments. -/
def listText (front : List (List Char)) (spacing : Spacing) (label : Option Identifier)
    (content : String) (back : List (List Char)) : List Char :=
  [','].intercalate (front ++ spacedText spacing label (literal content) :: back)

/-- A string written as a literal is found again in the argument list and on the page.  The literal
by itself is one argument without a label, and a text view made with it shows the string.  Among
other arguments, with or without a label and with blanks around it, it is one argument again and the
others are what they are by themselves.  A text view made with all of them shows the string when the
literal is the first argument without a label, or the first with the label `verbatim` where all have
labels; and as the first literal without a label, or the first argument with its label, it is the
string that any other call reads there. -/
theorem literal_shown (content : String) :
    argumentsOf (literal content) = [⟨none, literal content, none⟩] ∧
    ShowsString content (literal content) ∧
    ∀ (front back : List (List Char)) (spacing : Spacing) (label : Option Identifier),
      (∀ part ∈ front ++ back, Complete part) →
      argumentsOf (listText front spacing label content back) =
        front.flatMap argumentsOf ++
          ⟨label.map Identifier.string, literal content, none⟩ :: back.flatMap argumentsOf ∧
      (label = none → (∀ other ∈ front.flatMap argumentsOf, other.label ≠ none) →
        ShowsString content (listText front spacing label content back)) ∧
      (label.map Identifier.string = some "verbatim" →
        (∀ other ∈ (front ++ back).flatMap argumentsOf, other.label ≠ none) →
        (∀ other ∈ front.flatMap argumentsOf, other.label ≠ some "verbatim") →
        ShowsString content (listText front spacing label content back)) ∧
      (label = none →
        (∀ other ∈ front.flatMap argumentsOf, other.label = none → other.isQuoted = false) →
        (Arguments.ofText (listText front spacing label content back)).firstString? =
          some content) ∧
      ∀ name : Identifier, label = some name →
        (∀ other ∈ front.flatMap argumentsOf, other.label ≠ some name.string) →
        (Arguments.ofText (listText front spacing label content back)).labeledString? name.string =
          some content := by
  have alone : argumentsOf (literal content) = [⟨none, literal content, none⟩] :=
    argumentsOf_last ⟨none, literal content, (Operand.string content).isArgument⟩
  refine ⟨alone, ?_, fun front back spacing label complete ↦ ?_⟩
  · apply showsString_of_shownText
    apply shownText_of_literal none
    rw [Arguments.firstUnlabeled?, Arguments.unlabeled, Arguments.ofText, alone]
    rfl
  · have parts : argumentsOf (listText front spacing label content back) = _ :=
      argumentsOf_intercalate_spacedText spacing label content complete
    have written := congrArg (fun values ↦ ({ values } : Arguments)) parts
    refine ⟨parts, ?unlabeled, ?verbatim, ?first, ?labeled⟩
    case unlabeled =>
      rintro rfl labeled
      apply showsString_of_shownText
      apply shownText_of_literal none
      rw [Arguments.ofText, written, firstUnlabeled?_append rfl labeled, Option.some_or]
      rfl
    case verbatim =>
      intro isVerbatim labeled noOther
      rw [List.flatMap_append, List.forall_mem_append] at labeled
      apply showsString_of_shownText
      apply shownText_of_literal (some "verbatim")
      rw [isVerbatim] at written
      rw [Arguments.ofText, written, labeled?_append rfl noOther, firstUnlabeled?_eq_none,
        Option.none_or]
      rw [List.forall_mem_append, List.forall_mem_cons]
      exact ⟨labeled.1, Option.some_ne_none _, labeled.2⟩
    case first =>
      rintro rfl unquoted
      have quoted : Argument.isQuoted ⟨none, literal content, none⟩ = true :=
        isQuoted_literal content
      rw [Arguments.ofText, written, ← stringLiteral?_literal content]
      exact firstString?_append rfl quoted unquoted
    case labeled =>
      rintro name rfl others
      rw [Arguments.labeledString?, Arguments.ofText, written, labeled?_append rfl others,
        Option.bind_some]
      exact stringLiteral?_literal content

/-- Blanks in front of a label, behind it, and behind its colon. -/
def looseSpacing : Spacing :=
  ⟨['\n'], [' '], [' ', ' '], ['\t'], List.all_eq_true.mp (by decide)⟩

theorem literal_shown_looseSpacing :
    (∀ part ∈ ["x: f(\")\", 1)".toList, " y: [2]".toList], Complete part) ∧
      argumentsOf "x: f(\")\", 1),\n\"a: \\\"b\\\\\"\t, y: [2]".toList =
        [⟨some "x", "f(\")\", 1)".toList, none⟩, ⟨none, "\"a: \\\"b\\\\\"".toList, none⟩,
          ⟨some "y", "[2]".toList, none⟩] ∧
      ShowsString "a: \"b\\" "x: f(\")\", 1),\n\"a: \\\"b\\\\\"\t, y: [2]".toList := by
  have complete : ∀ part ∈ ["x: f(\")\", 1)".toList] ++ [" y: [2]".toList], Complete part := by
    unfold Complete
    decide
  have others : ∀ other ∈ ["x: f(\")\", 1)".toList].flatMap argumentsOf, other.label ≠ none := by
    decide
  have shown := (literal_shown "a: \"b\\").2.2 ["x: f(\")\", 1)".toList] [" y: [2]".toList]
    looseSpacing none complete
  exact ⟨complete, shown.1, shown.2.1 rfl others⟩

end ViewPreview.Spelling
