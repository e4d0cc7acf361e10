import ViewPreview.Proofs.Passage.Progress

/-!
# Statements That Are Passed Over

A statement that begins with the name of no view ends at the first line feed at which it has closed
as many brackets as it has opened, whatever their kinds.  It is passed over to that line feed and no
further, and it is reported on its own line.  Nothing of it belongs to what stands before it, unless
it begins like a labeled closure.
-/

namespace ViewPreview.Passage

open ViewPreview.Text ViewPreview.Call ViewPreview.Outline

/-! ## Depths -/

/-- An opening bracket of any kind. -/
def opensBracket (c : Char) : Bool :=
  c = '{' || c = '(' || c = '['

/-- A closing bracket of any kind. -/
def closesBracket (c : Char) : Bool :=
  c = '}' || c = ')' || c = ']'

/-- How many more brackets a text opens than it closes.  Every bracket counts, also inside string
literals. -/
def bracketDepth (text : List Char) : Int :=
  text.countP opensBracket - text.countP closesBracket

theorem bracketDepth_cons (c : Char) (text : List Char) :
    bracketDepth (c :: text) = bracketDepth [c] + bracketDepth text := by
  have counted (isBracket : Char → Bool) :
      (c :: text).countP isBracket = [c].countP isBracket + text.countP isBracket := by
    rw [← List.singleton_append, List.countP_append]
  have opened := counted opensBracket
  have closed := counted closesBracket
  unfold bracketDepth
  omega

theorem not_closesBracket {c : Char} (opens : opensBracket c = true) : closesBracket c = false := by
  simp only [opensBracket, Bool.or_eq_true, decide_eq_true_eq] at opens
  rcases opens with (rfl | rfl) | rfl
  · decide
  · decide
  · decide

/-- Inside a statement every character is passed over. -/
theorem dropStatement_cons {depth : Int} {c : Char} (inside : c = '\n' → 0 < depth)
    (text : List Char) :
    dropStatement depth (c :: text) = dropStatement (depth + bracketDepth [c]) text := by
  rw [dropStatement, bracketDepth, List.countP_singleton, List.countP_singleton]
  by_cases opens : opensBracket c = true
  · rw [if_pos opens, not_closesBracket opens]
    exact if_pos opens
  · by_cases closes : closesBracket c = true
    · rw [if_neg opens, if_pos closes]
      exact (if_neg opens).trans (if_pos closes)
    · have goesOn : ¬(c = '\n' && depth ≤ 0) = true := by
        intro ends
        rw [Bool.and_eq_true, decide_eq_true_eq, decide_eq_true_eq] at ends
        exact Int.not_le.mpr (inside ends.1) ends.2
      rw [if_neg opens, if_neg closes]
      exact ((if_neg opens).trans (if_neg closes)).trans
        ((if_neg goesOn).trans (congrArg (dropStatement · text) (Int.add_zero depth).symm))

/-- A text is dropped up to the first line feed outside of its brackets. -/
theorem dropStatement_append {text : List Char} {depth : Int}
    (inside : ∀ n < text.length, text[n]? = some '\n' → 0 < depth + bracketDepth (text.take n))
    (closed : depth + bracketDepth text ≤ 0) (rest : List Char) :
    dropStatement depth (text ++ '\n' :: rest) = rest := by
  induction text generalizing depth with
  | nil =>
    have level : depth ≤ 0 := by
      rwa [← Int.add_zero depth]
    have ends : ('\n' = '\n' && depth ≤ 0) = true := by
      rw [Bool.and_eq_true, decide_eq_true_eq, decide_eq_true_eq]
      exact ⟨rfl, level⟩
    rw [List.nil_append, dropStatement, if_neg (by decide), if_neg (by decide), if_pos ends]
  | cons c text ih =>
    have first : c = '\n' → 0 < depth := by
      rintro rfl
      have here := inside 0 (Nat.zero_lt_succ _) rfl
      rwa [← Int.add_zero depth]
    rw [List.cons_append, dropStatement_cons first]
    apply ih
    · intro n bound feed
      have deep := inside (n + 1) (Nat.succ_lt_succ bound) feed
      rwa [List.take_succ_cons, bracketDepth_cons, ← Int.add_assoc] at deep
    · rwa [bracketDepth_cons, ← Int.add_assoc] at closed

/-! ## Statements -/

/-- A statement that stands for no view, up to the line feed that ends it: it begins with a letter,
its name is that of no view, and no line feed in it stands outside of its brackets.  It does not
begin like a labeled closure, which would belong to the call before it. -/
structure UnsupportedStatement where
  text : List Char
  letter : ∃ c ∈ text.head?, isAsciiLetter c = true
  noKind : Kind.ofName? (String.ofList (text.takeWhile isIdentifierPart)) = none
  noPlaceholder : isPlaceholderName (String.ofList (text.takeWhile isIdentifierPart)) = false
  noLabeledBlock : beginsLabeledBlock text = false
  inside : ∀ n < text.length, text[n]? = some '\n' → 0 < bracketDepth (text.take n)
  closed : bracketDepth text ≤ 0

namespace UnsupportedStatement

variable (statement : UnsupportedStatement)

theorem exists_text : ∃ c others, statement.text = c :: others ∧ isIdentifierStart c = true := by
  obtain ⟨c, first, letter⟩ := statement.letter
  obtain ⟨others, written⟩ := List.head?_eq_some_iff.mp first
  refine ⟨c, others, written, ?_⟩
  rw [isIdentifierStart, letter, Bool.true_or]

theorem ne_nil (rest : List Char) : statement.text ++ rest ≠ [] := by
  obtain ⟨c, others, written, -⟩ := statement.exists_text
  rw [written]
  exact List.cons_ne_nil _ _

theorem head_isIdentifierStart (rest : List Char) :
    ∀ c ∈ (statement.text ++ rest).head?, isIdentifierStart c = true := by
  obtain ⟨first, others, written, start⟩ := statement.exists_text
  rw [written]
  intro c member
  exact Option.some.inj member ▸ start

/-- The name that a statement begins with. -/
def name : Identifier where
  chars := statement.text.takeWhile isIdentifierPart
  isIdentifier_chars := by
    obtain ⟨c, others, written, start⟩ := statement.exists_text
    have parts : (others.takeWhile isIdentifierPart).all isIdentifierPart = true :=
      List.all_takeWhile
    rw [written, List.takeWhile_cons, isIdentifierPart_of_isIdentifierStart start, if_pos rfl,
      isIdentifier, start, parts, Bool.and_true]

theorem namesView_name (isCalled : Bool) : namesView statement.name.string isCalled = false := by
  have noKind : Kind.ofName? statement.name.string = none := statement.noKind
  have noPlaceholder : isPlaceholderName statement.name.string = false := statement.noPlaceholder
  rw [namesView, noKind]
  simp only [noPlaceholder, Bool.and_false]

theorem scan?_eq_none (line : Nat) (rest : List Char) :
    scan? ⟨some line, statement.text ++ '\n' :: rest⟩ = none := by
  have behind := dropWhile_append_cons (by decide : isIdentifierPart '\n' = false) statement.text
    rest
  have stops : Stops isIdentifierPart
      (statement.text.dropWhile isIdentifierPart ++ '\n' :: rest) := by
    rw [← behind]
    exact stops_dropWhile _ _
  refine Passage.scan?_eq_none ?_ stops statement.namesView_name
  rw [← List.append_assoc]
  exact congrArg (· ++ '\n' :: rest) List.takeWhile_append_dropWhile.symm

/-- A statement is passed over to the line feed that ends it. -/
theorem statement?_eq (line : Nat) (rest : List Char) :
    statement? ⟨some line, statement.text ++ '\n' :: rest⟩ =
      some (⟨⟨some line, statement.text ++ '\n' :: rest⟩, none⟩,
        ⟨some (line + lineFeeds statement.text + 1), rest⟩) := by
  have dropped : dropStatement 0 (statement.text ++ '\n' :: rest) = rest := by
    apply dropStatement_append
    · intro n bound feed
      rw [Int.zero_add]
      exact statement.inside n bound feed
    · rw [Int.zero_add]
      exact statement.closed
  have moved := moveTo_append_cons (some line) statement.text '\n' rest
  rw [lineFeeds_append, lineFeeds_newline] at moved
  rw [statement?_dropped (statement.head_isIdentifierStart _) (statement.ne_nil _)
    (statement.scan?_eq_none line rest), dropped, moved]
  rfl

end UnsupportedStatement

/-! ## Labels -/

theorem BeginsStatement.head_trimStart {text : List Char} (begins : BeginsStatement text) :
    ∀ c ∈ (trimStart text).head?, isIdentifierStart c = true := by
  obtain ⟨blanks, others, rfl, blank, named, -⟩ := begins
  have stops : Stops isBlank others :=
    stops_of_isIdentifierStart named fun _ ↦ not_isBlank_of_isIdentifierPart
  rw [trimStart, dropWhile_append_of_stops (fun c member ↦ isAsciiBlank_isBlank (blank c member))
    stops]
  exact named

/-- What a text begins with behind blanks is on its own lines, or on the next ones if these are
blank. -/
theorem trimStart_append_line (text rest : List Char) :
    (trimStart text = [] ∧ trimStart (text ++ '\n' :: rest) = trimStart rest) ∨
      ∃ c others, trimStart text = c :: others ∧
        trimStart (text ++ '\n' :: rest) = c :: (others ++ '\n' :: rest) := by
  unfold trimStart
  rw [List.dropWhile_append]
  cases text.dropWhile isBlank with
  | nil => exact Or.inl ⟨rfl, trimStart_cons_of_isBlank (by decide)⟩
  | cons c others => exact Or.inr ⟨c, others, rfl, rfl⟩

namespace UnsupportedStatement

variable (statement : UnsupportedStatement)

/-- A statement does not begin like a labeled closure with the help of what follows it. -/
theorem beginsLabeledBlock_append {rest : List Char} (begins : BeginsStatement rest) :
    beginsLabeledBlock (statement.text ++ '\n' :: rest) = false := by
  obtain ⟨c, others, written, start⟩ := statement.exists_text
  have noLabeledBlock := statement.noLabeledBlock
  rw [written, beginsLabeledBlock, splitName?, if_pos start] at noLabeledBlock
  rw [written, List.cons_append, beginsLabeledBlock, splitName?, if_pos start,
    dropWhile_append_cons (by decide)]
  simp only at noLabeledBlock ⊢
  have other {d : Char} (noName : isIdentifierStart d = false) {value : List Char} :
      trimStart rest ≠ d :: value := by
    intro same
    have named := begins.head_trimStart d (congrArg List.head? same)
    rw [noName] at named
    exact Bool.noConfusion named
  rcases trimStart_append_line (others.dropWhile isWord) rest with
    ⟨-, below⟩ | ⟨d, value, here, whole⟩
  · rw [below]
    split
    · next same => exact absurd same (other (by decide))
    · rfl
  · rw [whole]
    rw [here] at noLabeledBlock
    split
    · next same =>
      obtain ⟨rfl, rfl⟩ := List.cons.inj same
      simp only [beq_eq_false_iff_ne] at noLabeledBlock ⊢
      rcases trimStart_append_line value rest with ⟨-, below⟩ | ⟨brace, inner, first, whole⟩
      · rw [below]
        intro brace
        exact other (by decide) (List.head?_eq_some_iff.mp brace).choose_spec
      · rw [whole]
        rwa [first] at noLabeledBlock
    · rfl

theorem beginsStatement {rest : List Char} (begins : BeginsStatement rest) :
    BeginsStatement (statement.text ++ '\n' :: rest) :=
  beginsStatement_named (statement.head_isIdentifierStart _)
    (statement.beginsLabeledBlock_append begins)

end UnsupportedStatement

/-! ## Views and caveats -/

/-- An unsupported statement makes no view and one caveat, on its own line, and leaves what follows
it as it is. -/
theorem statementViews_unsupported (statement : UnsupportedStatement) (line : Nat)
    (rest : List Char) :
    statementViews (statementExpressions ⟨some line, statement.text ++ '\n' :: rest⟩) =
      let others := statementViews
        (statementExpressions ⟨some (line + lineFeeds statement.text + 1), rest⟩)
      ⟨others.value,
        ⟨some line, .skippedStatement (snippet (statement.text ++ '\n' :: rest))⟩ ::
          others.caveats⟩ := by
  rw [statementExpressions_cons (statement.statement?_eq line rest), statementViews]
  rfl

end ViewPreview.Passage
