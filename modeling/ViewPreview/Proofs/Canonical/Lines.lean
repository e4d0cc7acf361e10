import ViewPreview.Preview
import ViewPreview.Proofs.Canonical.Constructor
import ViewPreview.Proofs.Passage.Declaration
import ViewPreview.Proofs.Passage.Progress

/-!
# Views on Lines of Their Own

Texts that are each read as a view are read one by one when each stands on lines of its own: between
the braces of a closure, and as the body of a declaration.  A text that is put together from calls
is balanced in braces and holds no comment, so that nothing of it is lost to what stands around it.
-/

namespace ViewPreview.Canonical

open ViewPreview.Text ViewPreview.Call ViewPreview.Number ViewPreview.Passage ViewPreview.Outline

theorem beginsCall_callText (name : Identifier) {arguments : Option (List WrittenArgument)}
    {closure : Option (List Char)} (isCall : (arguments.isSome || closure.isSome) = true)
    (rest : List Char) : BeginsCall (callText name arguments closure ++ rest) := by
  have shape : callText name arguments closure ++ rest =
      name.chars ++ (parenthesesText arguments ++ (closureText closure ++ rest)) := by
    rw [callText, List.append_assoc, List.append_assoc]
  cases arguments with
  | some written =>
    exact ⟨name, _, '(', _, shape, stops_cons.mpr (by decide), rfl, by decide⟩
  | none =>
    cases closure with
    | some inner =>
      exact ⟨name, _, '{', _, shape, stops_cons.mpr (by decide), rfl, by decide⟩
    | none => cases isCall

/-- A text that is read as a view is read apart from the statements behind it. -/
theorem statementViews_readsAs {text rest : List Char} {reading : Nat → Reading View}
    (reads : ReadsAs text reading) (begins : BeginsCall (text ++ rest))
    (ends : EndsExpression rest) (line : Nat) :
    statementViews (statementExpressions ⟨some line, text ++ rest⟩) =
      let others := statementViews (statementExpressions ⟨some (line + lineFeeds text), rest⟩)
      ⟨(reading line).value :: others.value, (reading line).caveats ++ others.caveats⟩ := by
  obtain ⟨scan, scanned, shown⟩ := reads line rest ends
  have found := statement?_scanned begins.head_isIdentifierStart begins.ne_nil scanned
  rw [statementExpressions_cons found, statementViews, ScannedStatement.outline, statementView,
    Option.map_some, optionalView?, shown]
  rfl

/-! ## Lines -/

section Lines

variable {α : Type} (text : α → List Char) (reading : α → Nat → Reading View)

/-- The texts of several things, each on lines of its own. -/
def linesText : List α → List Char
  | [] => []
  | item :: items => text item ++ '\n' :: linesText items

/-- What several things are read as, given the line that the first of them starts on. -/
def linesReading : Nat → List α → Reading (List View)
  | _, [] => ⟨[], []⟩
  | line, item :: items =>
    let others := linesReading (line + lineFeeds (text item) + 1) items
    ⟨(reading item line).value :: others.value, (reading item line).caveats ++ others.caveats⟩

variable {text reading} (begins : ∀ item rest, BeginsCall (text item ++ rest))

include begins

theorem beginsCall_linesText (items : List α) :
    linesText text items = [] ∨ BeginsCall (linesText text items) := by
  cases items with
  | nil => exact Or.inl rfl
  | cons item items => exact Or.inr (begins item _)

/-- Statements on lines of their own are read one by one. -/
theorem statementViews_linesText {items : List α}
    (each : ∀ item ∈ items, ReadsAs (text item) (reading item)) (line : Nat) :
    statementViews (statementExpressions ⟨some line, '\n' :: linesText text items⟩) =
      linesReading text reading (line + 1) items := by
  have lineFeed : ∀ c ∈ ['\n'], isAsciiBlank c = true :=
    List.forall_mem_singleton.mpr (by decide)
  induction items generalizing line with
  | nil =>
    rw [linesText, statementExpressions_eq_nil (statement?_eq_none lineFeed)]
    rfl
  | cons item items ih =>
    obtain ⟨reads, others⟩ := List.forall_mem_cons.mp each
    have ends : EndsExpression ('\n' :: linesText text items) :=
      endsExpression_newline (beginsCall_linesText begins items)
    have first := statementViews_readsAs reads (begins item _) ends (line + 1)
    simp only [ih others] at first
    exact (congrArg statementViews (statementExpressions_blanks lineFeed line _)).trans first

/-- A closure around lines has no parameter. -/
theorem closureExpression_linesText (items : List α) (line : Nat) :
    closureExpression none ⟨some line, '\n' :: linesText text items⟩ =
      bodyClosure none (statementExpressions ⟨some line, '\n' :: linesText text items⟩) := by
  have noParameter : splitParameter ⟨some line, '\n' :: linesText text items⟩ =
      (none, ⟨some line, '\n' :: linesText text items⟩) := by
    rw [splitParameter, parameter?_eq_none (beginsCall_linesText begins items)]
  rw [closureExpression, noParameter]
  rfl

omit begins in
/-- A parameter before lines is read with the closure. -/
theorem closureExpression_parameterText (row : Identifier) (items : List α) (line : Nat) :
    closureExpression none ⟨some line, parameterText row ++ '\n' :: linesText text items⟩ =
      bodyClosure (some row.string)
        (statementExpressions ⟨some line, '\n' :: linesText text items⟩) := by
  have shape : parameterText row ++ '\n' :: linesText text items =
      ' ' :: (row.chars ++ ' ' :: 'i' :: 'n' :: '\n' :: linesText text items) := by
    rw [parameterText, List.cons_append, List.append_assoc]
    rfl
  have moved := moveTo_sameLine line (noBreak_parameterText row) ('\n' :: linesText text items)
  have parameter : splitParameter ⟨some line, parameterText row ++ '\n' :: linesText text items⟩ =
      (some row.string, ⟨some line, '\n' :: linesText text items⟩) := by
    rw [shape] at moved ⊢
    unfold splitParameter
    simp only [parameter?_in, moved]
  rw [closureExpression, parameter]
  rfl

end Lines

/-! ## Properties that hold of parts and hold of the whole -/

/-- Whether a property of texts is kept when texts are put together in the ways that the texts of
views are. -/
structure Compositional (property : List Char → Prop) : Prop where
  append : ∀ {first second}, property first → property second → property (first ++ second)
  identifier : ∀ name : Identifier, property name.chars
  arguments : ∀ written, property (argumentsText written)
  mark : ∀ c ∈ [' ', '\n', '.', '(', ')'], property [c]
  enclosed : ∀ {inner}, property inner → property ('{' :: (inner ++ ['}']))

namespace Compositional

variable {property : List Char → Prop} (compositional : Compositional property)

include compositional

theorem nil : property [] :=
  compositional.arguments []

theorem cons {c : Char} {text : List Char} (isMark : c ∈ [' ', '\n', '.', '(', ')'])
    (rest : property text) : property (c :: text) :=
  compositional.append (compositional.mark c isMark) rest

theorem inParentheses (written : List WrittenArgument) :
    property ('(' :: (argumentsText written ++ [')'])) := by
  apply compositional.cons (by decide)
  exact compositional.append (compositional.arguments written) (compositional.mark _ (by decide))

theorem callText {name : Identifier} {arguments : Option (List WrittenArgument)}
    {closure : Option (List Char)} (closed : ∀ inner ∈ closure, property inner) :
    property (callText name arguments closure) := by
  have parentheses : property (parenthesesText arguments) := by
    cases arguments with
    | none => exact compositional.nil
    | some written => exact compositional.inParentheses written
  have braces : property (closureText closure) := by
    cases closure with
    | none => exact compositional.nil
    | some inner =>
      exact compositional.cons (by decide) (compositional.enclosed (closed inner rfl))
  exact compositional.append (compositional.identifier name)
    (compositional.append parentheses braces)

theorem linksText (links : List WrittenLink) : property (linksText links) := by
  induction links with
  | nil => exact compositional.nil
  | cons written links ih =>
    have link : property (linkText written.name (argumentsText written.arguments)) := by
      apply compositional.cons (by decide)
      exact compositional.append (compositional.identifier _) (compositional.inParentheses _)
    rw [linksText_cons]
    exact compositional.append link ih

theorem parameterText (row : Identifier) : property (parameterText row) := by
  have isIn : property [' ', 'i', 'n'] :=
    compositional.cons (by decide) (compositional.identifier ⟨['i', 'n'], by decide⟩)
  exact compositional.cons (by decide) (compositional.append (compositional.identifier row) isIn)

end Compositional

theorem compositional_balanced : Compositional (Balanced '{' '}') where
  append front back := front.append back
  identifier name := by
    apply balanced_of_forall
    intro c member
    have part := name.isIdentifierPart_of_mem member
    exact ⟨ne_of_isIdentifierPart part (by decide), ne_of_isIdentifierPart part (by decide)⟩
  arguments written := by
    apply balanced_of_forall
    intro c member
    have flat := flat_argumentsText written c member
    exact ⟨fun same ↦ flat (by rw [same]; decide), fun same ↦ flat (by rw [same]; decide)⟩
  mark c isMark := by
    have plain : ([' ', '\n', '.', '(', ')'].all fun c ↦ [c].all fun d ↦ d != '{' && d != '}') =
        true := by decide
    exact balanced_of_all (List.all_eq_true.mp plain c isMark)
  enclosed inside := inside.enclosed (by decide)

theorem compositional_commentless : Compositional Commentless where
  append front back := front.append back
  identifier name := by
    apply commentless_of_forall
    intro c member
    have part := name.isIdentifierPart_of_mem member
    exact ⟨ne_of_isIdentifierPart part (by decide), ne_of_isIdentifierPart part (by decide)⟩
  arguments written := commentless_argumentsText written
  mark c isMark := by
    have plain : ([' ', '\n', '.', '(', ')'].all fun c ↦ [c].all fun d ↦ d != '/' && d != '"') =
        true := by decide
    exact commentless_of_all (List.all_eq_true.mp plain c isMark)
  enclosed inside := by
    have opening : Commentless ['{'] := commentless_of_all (by decide)
    have closing : Commentless ['}'] := commentless_of_all (by decide)
    exact opening.append (inside.append closing)

/-! ## Declarations -/

/-- A text that every property of parts holds of, and that begins with a call whatever follows. -/
structure IsViewText (text : List Char) : Prop where
  begins : ∀ rest, BeginsCall (text ++ rest)
  balanced : Balanced '{' '}' text
  commentless : Commentless text

namespace IsViewText

variable {text : List Char} (isViewText : IsViewText text)

include isViewText

theorem skipBlanks_newline (line : Nat) (trailing : List Char) :
    skipBlanks ⟨some line, '\n' :: (text ++ trailing)⟩ = ⟨some (line + 1), text ++ trailing⟩ := by
  obtain ⟨head, tail, opening, others, written, -, -, -⟩ := isViewText.begins trailing
  have dropped : ('\n' :: (text ++ trailing)).dropWhile isAsciiBlank = text ++ trailing := by
    rw [written]
    exact dropWhile_identifier (fun _ ↦ not_isAsciiBlank_of_isIdentifierPart) head tail
  rw [skipBlanks, skipWhile, dropped]
  exact moveTo_append (some line) ['\n'] (text ++ trailing)

theorem trim_newline_ne_nil (trailing : List Char) : trim ('\n' :: (text ++ trailing)) ≠ [] := by
  obtain ⟨head, tail, opening, others, written, -, -, -⟩ := isViewText.begins trailing
  obtain ⟨first, rest, same, -, -⟩ := head.exists_chars
  intro empty
  have blank : isBlank first = true := by
    apply trim_eq_nil_iff.mp empty
    rw [written, same]
    exact List.mem_cons_of_mem _ List.mem_cons_self
  have visible : isBlank first = false := head.not_isBlank_of_mem (same ▸ List.mem_cons_self)
  exact absurd (blank.symm.trans visible) (by decide)

theorem balanced_lines : Balanced '{' '}' ('\n' :: (text ++ ['\n'])) := by
  apply compositional_balanced.cons (by decide)
  exact compositional_balanced.append isViewText.balanced
    (compositional_balanced.mark _ (by decide))

/-- The declaration around a view holds no comment. -/
theorem stripComments_declarationText (name : Identifier) :
    stripComments (declarationText name ('\n' :: (text ++ ['\n']))) =
      declarationText name ('\n' :: (text ++ ['\n'])) := by
  have words (text : String) (plain : (text.toList.all fun c ↦ c != '/' && c != '"') = true) :
      Commentless text.toList := commentless_of_all plain
  have body : Commentless ('\n' :: (text ++ ['\n'])) := by
    apply compositional_commentless.cons (by decide)
    exact isViewText.commentless.append (compositional_commentless.mark _ (by decide))
  have inBraces := compositional_commentless.enclosed body
  have braces : Commentless ('{' :: ('\n' :: (text ++ ['\n']) ++ "\x7d ".toList)) := by
    have together := inBraces.append (words " " (by decide))
    rw [List.cons_append, List.append_assoc] at together
    exact together
  have members : Commentless (membersText ('\n' :: (text ++ ['\n']))) := by
    unfold membersText
    exact (words " var body: some View " (by decide)).append braces
  have named := compositional_commentless.identifier name
  have whole := compositional_commentless.enclosed members
  have declaration : Commentless (declarationText name ('\n' :: (text ++ ['\n']))) := by
    unfold declarationText
    exact (words "struct " (by decide)).append
      (named.append ((words ": View " (by decide)).append whole))
  apply stripComments_eq_self
  have kept := declaration []
  rw [List.append_nil] at kept
  exact kept

/-- The body of a declaration is scanned as the view that its text is read as. -/
theorem readBody_lines (name : Identifier) {reading : Nat → Reading View}
    (reads : ReadsAs text reading) :
    (Passage.readBody (declarationText name ('\n' :: (text ++ ['\n'])))).bind Body.view =
      .ok (reading 2) := by
  have found := readBody_declarationText name isViewText.balanced_lines
    (isViewText.trim_newline_ne_nil ['\n'])
  obtain ⟨scan, scanned, shown⟩ := reads 2 ['\n'] (endsExpression_newline (Or.inl rfl))
  have skipped := isViewText.skipBlanks_newline 1 ['\n']
  have start := @expressionStart_eq ⟨some 1, '\n' :: (text ++ ['\n'])⟩
    (skipped ▸ Option.ne_none_iff_exists'.mpr ⟨_, scanned⟩)
  rw [found, start, skipped, expression?, scanned]
  show Body.view _ = _
  rw [Body.view]
  simp only [Option.map_some, optionalView?, shown, List.nil_append]

/-- A declaration of a view is scanned as what the text of its body is read as. -/
theorem ofSource_lines (name : Identifier) {reading : Nat → Reading View}
    (reads : ReadsAs text reading) :
    Preview.ofSource .fallback
        (String.ofList (declarationText name ('\n' :: (text ++ ['\n'])))) =
      ⟨some (reading 2).value, (reading 2).caveats.map Caveat.message⟩ := by
  rw [Preview.ofSource, String.toList_ofList, isViewText.stripComments_declarationText]
  show Preview.ofReading ((Passage.readBody _).bind Body.view) = _
  rw [isViewText.readBody_lines name reads]
  rfl

end IsViewText

end ViewPreview.Canonical
