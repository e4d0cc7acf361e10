import ViewPreview.Proofs.Canonical.RoundTrip
import ViewPreview.Proofs.Passage.Unsupported

/-!
# Views Among Unsupported Statements

Between the braces of a closure canonical views and statements that stand for no view may follow
each other in any order, each on lines of its own.  Every line is read apart from the others: a view
line makes its view and nothing else, and an unsupported statement makes one caveat on its own line
and nothing else.
-/

namespace ViewPreview.Canonical

open ViewPreview.Text ViewPreview.Passage ViewPreview.Outline

/-! ## Lines -/

/-- A run of ASCII blanks, line feeds included. -/
structure Blanks where
  chars : List Char
  all_isAsciiBlank : chars.all isAsciiBlank = true

theorem Blanks.isAsciiBlank_of_mem (blanks : Blanks) : ∀ c ∈ blanks.chars, isAsciiBlank c = true :=
  List.all_eq_true.mp blanks.all_isAsciiBlank

/-- A line of a closure, behind its indentation and any empty lines before it.  It goes on over
several lines when its brackets do. -/
inductive BodyLine where
  | view (indent : Blanks) (tree : Tree) (trailing : Blanks)
  | unsupported (indent : Blanks) (statement : UnsupportedStatement)

namespace BodyLine

/-- The blanks before a line. -/
def indent : BodyLine → Blanks
  | .view indent _ _ => indent
  | .unsupported indent _ => indent

/-- A line without its indentation and the line feed that ends it. -/
def written : BodyLine → List Char
  | .view _ tree trailing => tree.text ++ trailing.chars
  | .unsupported _ statement => statement.text

/-- The view that a line makes. -/
def view? : BodyLine → Option View
  | .view _ tree _ => some tree.view
  | .unsupported _ _ => none

/-- The caveat that a line makes, given where it starts and the text from there on. -/
def caveat? (start : Nat) (text : List Char) : BodyLine → Option Caveat
  | .view _ _ _ => none
  | .unsupported _ _ => some ⟨some start, .skippedStatement (snippet text)⟩

end BodyLine

/-- The text of lines and what follows them. -/
def bodyText (ending : List Char) : List BodyLine → List Char
  | [] => ending
  | line :: lines => line.indent.chars ++ (line.written ++ '\n' :: bodyText ending lines)

/-- The caveats of lines that begin at a place. -/
def bodyCaveats (ending : List Char) : (place : Nat) → List BodyLine → List Caveat
  | _, [] => []
  | place, line :: lines =>
    let start := place + lineFeeds line.indent.chars
    (line.caveat? start (line.written ++ '\n' :: bodyText ending lines)).toList ++
      bodyCaveats ending (start + lineFeeds line.written + 1) lines

/-! ## One line -/

/-- A line makes its view or its caveat and leaves what follows it as it is. -/
theorem statementViews_line (line : BodyLine) (place : Nat) {rest : List Char}
    (begins : BeginsStatement rest) :
    statementViews (statementExpressions
        ⟨some place, line.indent.chars ++ (line.written ++ '\n' :: rest)⟩) =
      let start := place + lineFeeds line.indent.chars
      let others := statementViews
        (statementExpressions ⟨some (start + lineFeeds line.written + 1), rest⟩)
      ⟨line.view?.toList ++ others.value,
        (line.caveat? start (line.written ++ '\n' :: rest)).toList ++ others.caveats⟩ := by
  rw [statementExpressions_blanks line.indent.isAsciiBlank_of_mem]
  cases line with
  | view indent tree trailing =>
    have ends := endsExpression_line trailing.isAsciiBlank_of_mem begins
    have shape : tree.text ++ trailing.chars ++ '\n' :: rest =
        tree.text ++ (trailing.chars ++ '\n' :: rest) := List.append_assoc _ _ _
    have blank : ∀ c ∈ trailing.chars ++ ['\n'], isAsciiBlank c = true :=
      List.forall_mem_append.mpr
        ⟨trailing.isAsciiBlank_of_mem, List.forall_mem_singleton.mpr (by decide)⟩
    have behind := statementExpressions_blanks blank
      (place + lineFeeds indent.chars + lineFeeds tree.text) rest
    rw [List.append_assoc, List.singleton_append, lineFeeds_append] at behind
    have read := statementViews_readsAs (readsAs tree) (beginsCall_text tree _) ends
      (place + lineFeeds indent.chars)
    rw [behind] at read
    simp only [BodyLine.indent, BodyLine.written, BodyLine.view?, BodyLine.caveat?]
    rw [shape, read, lineFeeds_append]
    simp only [Nat.add_assoc]
    rfl
  | unsupported indent statement =>
    exact statementViews_unsupported statement _ rest

theorem beginsStatement_line (line : BodyLine) {rest : List Char} (begins : BeginsStatement rest) :
    BeginsStatement (line.indent.chars ++ (line.written ++ '\n' :: rest)) := by
  apply BeginsStatement.blanks_append _ line.indent.isAsciiBlank_of_mem
  cases line with
  | view indent tree trailing =>
    have call := beginsCall_text tree (trailing.chars ++ '\n' :: rest)
    rw [← List.append_assoc] at call
    exact call.beginsStatement
  | unsupported indent statement => exact statement.beginsStatement begins

/-! ## Lines one after the other -/

section Lines

variable {ending : List Char} (begins : BeginsStatement ending)

include begins

theorem beginsStatement_bodyText (lines : List BodyLine) :
    BeginsStatement (bodyText ending lines) := by
  induction lines with
  | nil => exact begins
  | cons line lines ih => exact beginsStatement_line line ih

/-- Lines are read one by one. -/
theorem statementViews_bodyText {views : List View}
    (reads : ∀ place, statementViews (statementExpressions ⟨some place, ending⟩) = ⟨views, []⟩)
    (lines : List BodyLine) (place : Nat) :
    statementViews (statementExpressions ⟨some place, bodyText ending lines⟩) =
      ⟨lines.filterMap BodyLine.view? ++ views, bodyCaveats ending place lines⟩ := by
  induction lines generalizing place with
  | nil => exact reads place
  | cons line lines ih =>
    have first := statementViews_line line place (beginsStatement_bodyText begins lines)
    simp only [ih] at first
    rw [bodyText, first, bodyCaveats, List.filterMap_cons]
    cases line.view? with
    | none => rfl
    | some view => rfl

end Lines

/-! ## Closures -/

/-- What stands between the braces of a closure: lines, and behind them blanks or a last view that
no line feed has to end. -/
structure Interior where
  lines : List BodyLine
  margin : Blanks
  last : Option Tree
  ending : Blanks

namespace Interior

variable (interior : Interior)

/-- The text behind the lines of an interior. -/
def endingText : List Char :=
  interior.margin.chars ++ (interior.last.elim [] Tree.text ++ interior.ending.chars)

/-- The text of an interior. -/
def text : List Char :=
  bodyText interior.endingText interior.lines

/-- The views of the lines of an interior, in order. -/
def views : List View :=
  interior.lines.filterMap BodyLine.view? ++ interior.last.toList.map Tree.view

/-- The caveats of the lines of an interior, in order. -/
def caveats (place : Nat) : List Caveat :=
  bodyCaveats interior.endingText place interior.lines

theorem beginsStatement_endingText : BeginsStatement interior.endingText := by
  apply BeginsStatement.blanks_append _ interior.margin.isAsciiBlank_of_mem
  cases interior.last with
  | none => exact beginsStatement_blanks interior.ending.isAsciiBlank_of_mem
  | some tree => exact (beginsCall_text tree interior.ending.chars).beginsStatement

theorem statementViews_endingText (place : Nat) :
    statementViews (statementExpressions ⟨some place, interior.endingText⟩) =
      ⟨interior.last.toList.map Tree.view, []⟩ := by
  have nothing (line : Nat) :
      statementExpressions ⟨some line, interior.ending.chars⟩ = [] :=
    statementExpressions_eq_nil (statement?_eq_none interior.ending.isAsciiBlank_of_mem)
  rw [endingText, statementExpressions_blanks interior.margin.isAsciiBlank_of_mem]
  cases interior.last with
  | none => exact congrArg statementViews (nothing _)
  | some tree =>
    have ends := endsExpression_blanks interior.ending.isAsciiBlank_of_mem
    have read := statementViews_readsAs (readsAs tree) (beginsCall_text tree _) ends
    simp only [nothing] at read
    exact read _

end Interior

/-- Whatever lines follow each other between the braces of a closure, the views are those of the
view lines, and each unsupported statement is reported once, on its own line. -/
theorem statementViews_interior (interior : Interior) (place : Nat) :
    statementViews (statementExpressions ⟨some place, interior.text⟩) =
      ⟨interior.views, interior.caveats place⟩ :=
  statementViews_bodyText interior.beginsStatement_endingText interior.statementViews_endingText
    interior.lines place

/-- A statement over three lines, with brackets that are closed on the last of them. -/
def flagStatement : UnsupportedStatement where
  text := "if flag \x7b\n  Text(\"a\")\n \x7d".toList
  letter := ⟨'i', by decide, by decide⟩
  noKind := by decide +kernel
  noPlaceholder := by decide +kernel
  noLabeledBlock := by decide +kernel
  inside := by decide +kernel
  closed := by decide +kernel

/-- A statement on one line that would label an argument. -/
def labelStatement : UnsupportedStatement where
  text := "title: name".toList
  letter := ⟨'t', by decide, by decide⟩
  noKind := by decide +kernel
  noPlaceholder := by decide +kernel
  noLabeledBlock := by decide +kernel
  inside := by decide +kernel
  closed := by decide +kernel

/-- Views before and behind unsupported statements. -/
def flagInterior : Interior where
  lines :=
    [.view ⟨['\n', ' '], by decide⟩ (.leaf .divider []) ⟨[], by decide⟩,
      .unsupported ⟨[' '], by decide⟩ labelStatement,
      .unsupported ⟨[' '], by decide⟩ flagStatement]
  margin := ⟨[' '], by decide⟩
  last := some (.leaf .spacer [])
  ending := ⟨[' '], by decide⟩

theorem statementViews_interior_flag :
    statementViews (statementExpressions ⟨some 4,
        "\n Divider()\n title: name\n if flag \x7b\n  Text(\"a\")\n \x7d\n Spacer() ".toList⟩) =
      ⟨[⟨.divider, [], [], []⟩, ⟨.spacer, [], [], []⟩],
        [⟨some 6, .skippedStatement "title: name"⟩,
          ⟨some 7, .skippedStatement "if flag \x7b"⟩]⟩ := by
  have caveats : flagInterior.caveats 4 =
      [⟨some 6, .skippedStatement "title: name"⟩, ⟨some 7, .skippedStatement "if flag \x7b"⟩] := by
    decide +kernel
  exact (statementViews_interior flagInterior 4).trans (congrArg (Reading.mk _) caveats)

end ViewPreview.Canonical
