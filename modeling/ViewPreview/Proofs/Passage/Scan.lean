import ViewPreview.Passage.Scan
import ViewPreview.Proofs.Call.Nesting
import ViewPreview.Proofs.Text.Identifier
import ViewPreview.Proofs.Text.Occurrence

/-!
# Scanning What Was Written

What scanning a passage finds when its text is known to begin with a call, a closure or a modifier,
and where it leaves off.  A passage that is left is known by its text and by the line feeds of what
was taken off before it.
-/

namespace ViewPreview.Passage

open ViewPreview.Text ViewPreview.Call

variable {passage : Passage} {inner rest : List Char}

/-! ## Repeated steps -/

section Repeat

variable {α : Type} {step : Passage → Option (α × Passage)}

theorem repeatStep_eq_nil (stuck : step passage = none) :
    repeatStep step passage = ([], passage) := by
  rw [repeatStep, stuck]

theorem repeatStep_cons {found : α} {after : Passage} (moved : step passage = some (found, after))
    (shorter : after.length < passage.length) :
    repeatStep step passage =
      (found :: (repeatStep step after).1, (repeatStep step after).2) := by
  rw [repeatStep, moved]
  exact if_pos shorter

end Repeat

/-! ## Places -/

/-- The line of a later place does not depend on what follows it. -/
theorem moveTo_append (line : Option Nat) (front rest : List Char) :
    (⟨line, front ++ rest⟩ : Passage).moveTo rest =
      ⟨line.map (· + lineFeeds front), rest⟩ := by
  rw [moveTo, List.length_append, Nat.add_sub_cancel, List.take_left]

theorem moveTo_append_cons (line : Option Nat) (front : List Char) (c : Char) (rest : List Char) :
    (⟨line, front ++ c :: rest⟩ : Passage).moveTo rest =
      ⟨line.map (· + lineFeeds (front ++ [c])), rest⟩ := by
  rw [List.append_cons, moveTo_append]

theorem moveTo_sameLine (line : Nat) {front : List Char} (oneLine : '\n' ∉ front)
    (rest : List Char) :
    (⟨some line, front ++ rest⟩ : Passage).moveTo rest = ⟨some line, rest⟩ := by
  rw [moveTo_append, lineFeeds_eq_zero oneLine]
  rfl

theorem moveTo_sameLine_cons (line : Nat) {front : List Char} {c : Char} (oneLine : '\n' ∉ front)
    (visible : '\n' ≠ c) (rest : List Char) :
    (⟨some line, front ++ c :: rest⟩ : Passage).moveTo rest = ⟨some line, rest⟩ := by
  rw [List.append_cons]
  exact moveTo_sameLine line
    (List.not_mem_append oneLine fun same ↦ visible (List.mem_singleton.mp same)) rest

theorem moveTo_self (line : Nat) (text : List Char) :
    (⟨some line, text⟩ : Passage).moveTo text = ⟨some line, text⟩ :=
  moveTo_sameLine line List.not_mem_nil text

/-! ## Blocks -/

theorem block?_eq {opening closing : Char} (distinct : closing ≠ opening)
    (oneLine : '\n' ∉ [opening, closing]) (balanced : Balanced opening closing inner) (line : Nat)
    (rest : List Char) :
    block? opening closing ⟨some line, opening :: (inner ++ closing :: rest)⟩ =
      some (⟨some line, inner⟩, ⟨some (line + lineFeeds inner), rest⟩) := by
  have noBreak {c : Char} (isBracket : c ∈ [opening, closing]) : '\n' ∉ [c] :=
    fun same ↦ oneLine (List.mem_singleton.mp same ▸ isBracket)
  have start := moveTo_sameLine line (noBreak List.mem_cons_self) (inner ++ closing :: rest)
  have finish : (⟨some line, opening :: (inner ++ closing :: rest)⟩ : Passage).moveTo rest =
      ⟨some (line + lineFeeds inner), rest⟩ := by
    have feeds : lineFeeds (opening :: inner ++ [closing]) = lineFeeds inner := by
      have first := lineFeeds_eq_zero (noBreak (@List.mem_cons_self _ opening _))
      have last := lineFeeds_eq_zero (noBreak (List.mem_cons_of_mem opening List.mem_cons_self))
      rw [lineFeeds_append, ← List.singleton_append, lineFeeds_append, first, last, Nat.zero_add,
        Nat.add_zero]
    have moved := moveTo_append (some line) (opening :: inner ++ [closing]) rest
    rw [feeds, List.append_assoc, List.singleton_append] at moved
    exact moved
  rw [List.singleton_append] at start
  unfold block?
  simp only [if_true, balanced.splitClosing?_eq distinct, Option.map_some, start, finish]

theorem block?_eq_none {opening closing : Char} (other : passage.text.head? ≠ some opening) :
    passage.block? opening closing = none := by
  unfold block?
  split
  · rfl
  · next c text written =>
    rw [written] at other
    rw [if_neg fun same ↦ other (congrArg some same)]

/-- Whether no closure follows on the same line. -/
def NoBlock (rest : List Char) : Prop :=
  (rest.dropWhile isInlineBlank).head? ≠ some '{'

theorem trailingBlock?_eq_none (noBlock : NoBlock passage.text) : passage.trailingBlock? = none :=
  block?_eq_none noBlock

theorem trailingBlock?_eq (balanced : Balanced '{' '}' inner) (line : Nat) (rest : List Char) :
    trailingBlock? ⟨some line, ' ' :: '{' :: (inner ++ '}' :: rest)⟩ =
      some (⟨some line, inner⟩, ⟨some (line + lineFeeds inner), rest⟩) := by
  have skipped : skipInlineBlanks ⟨some line, ' ' :: '{' :: (inner ++ '}' :: rest)⟩ =
      ⟨some line, '{' :: (inner ++ '}' :: rest)⟩ :=
    moveTo_sameLine line (by decide : '\n' ∉ [' ']) _
  rw [trailingBlock?, skipped, block?_eq (by decide) (by decide) balanced]

/-! ## Closures of a call -/

/-- Whether no label follows. -/
def NoLabel (rest : List Char) : Prop :=
  ∀ label after, splitName? (rest.dropWhile isAsciiBlank) = some (label, after) →
    (trimStart after).head? ≠ some ':'

/-- Whether a text begins with an identifier, a colon and an opening brace, blanks between them
apart. -/
def beginsLabeledBlock (text : List Char) : Bool :=
  match splitName? text with
  | some (_, after) =>
    match trimStart after with
    | ':' :: value => (trimStart value).head? == some '{'
    | _ => false
  | none => false

/-- Whether no labeled closure follows. -/
def NoLabeledBlock (rest : List Char) : Prop :=
  beginsLabeledBlock (rest.dropWhile isAsciiBlank) = false

theorem NoLabel.noLabeledBlock (noLabel : NoLabel rest) : NoLabeledBlock rest := by
  unfold NoLabeledBlock beginsLabeledBlock
  split
  · next label after found =>
    split
    · next value colon => exact absurd (congrArg List.head? colon) (noLabel label after found)
    · rfl
  · rfl

theorem labeledBlock?_eq_none (noLabeledBlock : NoLabeledBlock passage.text) :
    labeledBlock? passage = none := by
  have start : passage.skipBlanks.text = passage.text.dropWhile isAsciiBlank := rfl
  unfold NoLabeledBlock beginsLabeledBlock at noLabeledBlock
  unfold labeledBlock?
  simp only [start]
  split
  · rfl
  · next label after found =>
    simp only [found] at noLabeledBlock
    split
    · next value colon =>
      simp only [colon, beq_eq_false_iff_ne] at noLabeledBlock
      have noBlock : (passage.skipBlanks.moveTo (trimStart value)).block? '{' '}' = none :=
        block?_eq_none noLabeledBlock
      rw [noBlock, Option.map_none]
    · rfl

theorem blocks_eq_nil (noBlock : NoBlock passage.text)
    (noLabeledBlock : NoLabeledBlock passage.text) : passage.blocks = ([], passage) := by
  rw [blocks, unlabeledBlock, trailingBlock?_eq_none noBlock]
  simp only [repeatStep_eq_nil (labeledBlock?_eq_none noLabeledBlock), List.append_nil]

theorem blocks_eq_singleton (balanced : Balanced '{' '}' inner)
    (noLabeledBlock : NoLabeledBlock rest) (line : Nat) :
    blocks ⟨some line, ' ' :: '{' :: (inner ++ '}' :: rest)⟩ =
      ([⟨none, ⟨some line, inner⟩⟩], ⟨some (line + lineFeeds inner), rest⟩) := by
  have noOther : labeledBlock? ⟨some (line + lineFeeds inner), rest⟩ = none :=
    labeledBlock?_eq_none noLabeledBlock
  rw [blocks, unlabeledBlock, trailingBlock?_eq balanced]
  simp only [repeatStep_eq_nil noOther, List.append_nil]

/-! ## Modifiers -/

/-- Whether no modifier follows. -/
def NoLink (rest : List Char) : Prop :=
  (rest.dropWhile isAsciiBlank).head? ≠ some '.'

theorem link?_eq_none (noLink : NoLink passage.text) : link? passage = none := by
  unfold link?
  simp only
  split
  · next text dot => exact absurd (congrArg List.head? dot) noLink
  · rfl

/-- A modifier as it is written. -/
def linkText (name : Identifier) (arguments : List Char) : List Char :=
  '.' :: (name.chars ++ '(' :: (arguments ++ [')']))

theorem lineFeeds_linkText (name : Identifier) (arguments : List Char) :
    lineFeeds (linkText name arguments) = lineFeeds arguments := by
  have front : '\n' ∉ '.' :: (name.chars ++ ['(']) := by
    simp only [List.mem_cons, List.mem_append, List.not_mem_nil, or_false, not_or]
    exact ⟨by decide, name.not_mem_chars (by decide), by decide⟩
  have back : '\n' ∉ [')'] := by decide
  have shape : linkText name arguments = '.' :: (name.chars ++ ['(']) ++ (arguments ++ [')']) := by
    simp only [linkText, List.cons_append, List.append_assoc, List.nil_append]
  rw [shape, lineFeeds_append, lineFeeds_append, lineFeeds_eq_zero front, lineFeeds_eq_zero back,
    Nat.zero_add, Nat.add_zero]

section AfterName

variable {line start : Option Nat} {name : String} {arguments behind : List Char}

theorem linkAfterName?_of_nested (split : splitFirst? ')' inner = some (arguments, behind))
    (nested : arguments.contains '(' = true) :
    linkAfterName? start name ⟨line, '(' :: inner⟩ =
      some (.unread start name, (⟨line, '(' :: inner⟩ : Passage).skipCall.linkBlock.2) := by
  simp only [linkAfterName?, split, Option.map_some, nested, if_true]

theorem linkAfterName?_of_flat {closure : Option Passage} {after : Passage}
    (absent : ')' ∉ arguments) (flat : ¬arguments.contains '(' = true)
    (closed : linkBlock ⟨line.map (· + lineFeeds arguments), behind⟩ = (closure, after)) :
    linkAfterName? start name ⟨line, '(' :: (arguments ++ ')' :: behind)⟩ =
      some (.call start name arguments closure, after) := by
  have feeds : lineFeeds ('(' :: arguments ++ [')']) = lineFeeds arguments := by
    rw [lineFeeds_append, ← List.singleton_append, lineFeeds_append,
      lineFeeds_eq_zero (by decide : '\n' ∉ ['(']), lineFeeds_eq_zero (by decide : '\n' ∉ [')']),
      Nat.zero_add, Nat.add_zero]
  have moved := moveTo_append_cons line ('(' :: arguments) ')' behind
  rw [feeds, List.cons_append] at moved
  simp only [linkAfterName?, splitFirst?_append absent, Option.map_some, flat, moved, closed]
  rfl

theorem linkAfterName?_eq (flat : ∀ c ∈ arguments, c ∉ ['(', ')', '{', '}'])
    (noBlock : NoBlock rest) (place : Nat) :
    linkAfterName? start name ⟨some place, '(' :: (arguments ++ ')' :: rest)⟩ =
      some (.call start name arguments none, ⟨some (place + lineFeeds arguments), rest⟩) := by
  have noClosing : ')' ∉ arguments := fun member ↦ flat _ member (by decide)
  have noOpening : ¬arguments.contains '(' = true := fun member ↦
    flat _ (List.contains_iff_mem.mp member) (by decide)
  have noClosure : linkBlock ⟨some (place + lineFeeds arguments), rest⟩ =
      (none, ⟨some (place + lineFeeds arguments), rest⟩) := by
    have noOther : trailingBlock? ⟨some (place + lineFeeds arguments), rest⟩ = none :=
      trailingBlock?_eq_none noBlock
    rw [linkBlock, noOther]
  exact linkAfterName?_of_flat noClosing noOpening noClosure

end AfterName

/-- A link is read from behind its name, on the line of the dot. -/
theorem link?_called {blanks : List Char} (blank : ∀ c ∈ blanks, isAsciiBlank c = true)
    (name : Word) (line : Nat) (tail : List Char) :
    link? ⟨some line, blanks ++ '.' :: (name.chars ++ '(' :: tail)⟩ =
      linkAfterName? (some (line + lineFeeds blanks)) name.string
        ⟨some (line + lineFeeds blanks), '(' :: tail⟩ := by
  have skipped : skipBlanks ⟨some line, blanks ++ '.' :: (name.chars ++ '(' :: tail)⟩ =
      ⟨some (line + lineFeeds blanks), '.' :: (name.chars ++ '(' :: tail)⟩ := by
    have dot : Stops isAsciiBlank ('.' :: (name.chars ++ '(' :: tail)) :=
      stops_cons.mpr (by decide)
    rw [skipBlanks, skipWhile, dropWhile_append_of_stops blank dot]
    exact moveTo_append (some line) blanks _
  have passed : (⟨some (line + lineFeeds blanks), '.' :: (name.chars ++ '(' :: tail)⟩ :
      Passage).moveTo ('(' :: tail) = ⟨some (line + lineFeeds blanks), '(' :: tail⟩ := by
    have oneLine : '\n' ∉ '.' :: name.chars := by
      rw [List.mem_cons, not_or]
      exact ⟨by decide, name.not_mem_chars (by decide)⟩
    exact moveTo_sameLine _ oneLine _
  have stops : Stops isWord ('(' :: tail) := stops_cons.mpr (by decide)
  have named : name.chars.isEmpty = false := by
    rw [Bool.eq_false_iff]
    intro empty
    exact name.chars_ne_nil (List.isEmpty_iff.mp empty)
  unfold link?
  simp only [skipped, name.takeWhile_append stops, name.dropWhile_append stops, named,
    Bool.false_eq_true, if_false, passed]
  rfl

theorem link?_eq {name : Identifier} {arguments : List Char}
    (flat : ∀ c ∈ arguments, c ∉ ['(', ')', '{', '}']) (noBlock : NoBlock rest) (line : Nat) :
    link? ⟨some line, linkText name arguments ++ rest⟩ =
      some (.call (some line) name.string arguments none,
        ⟨some (line + lineFeeds arguments), rest⟩) := by
  have shape : linkText name arguments ++ rest =
      [] ++ '.' :: (name.chars ++ '(' :: (arguments ++ ')' :: rest)) := by
    simp only [linkText, List.cons_append, List.append_assoc, List.nil_append]
  rw [shape]
  exact (link?_called (fun _ member ↦ absurd member List.not_mem_nil) name.word line _).trans
    (linkAfterName?_eq flat noBlock line)

/-! ## Expressions -/

/-- Whether an expression cannot go on into a text. -/
structure EndsExpression (rest : List Char) : Prop where
  noBlock : NoBlock rest
  noLabeledBlock : NoLabeledBlock rest
  noLink : NoLink rest

theorem callArguments?_called (balanced : Balanced '(' ')' inner) (line : Nat)
    (rest : List Char) :
    callArguments? ⟨some line, '(' :: (inner ++ ')' :: rest)⟩ =
      some (some inner, ⟨some (line + lineFeeds inner), rest⟩) := by
  show (block? '(' ')' ⟨some line, '(' :: (inner ++ ')' :: rest)⟩).map _ = _
  rw [block?_eq (by decide) (by decide) balanced]
  rfl

theorem callArguments?_uncalled (other : passage.text.head? ≠ some '(') :
    passage.callArguments? = some (none, passage) := by
  unfold callArguments?
  split
  · next text written => exact absurd (congrArg List.head? written) other
  · rfl

/-- An expression is scanned part by part. -/
theorem scan?_eq {name : Identifier} {tail : List Char} {arguments : Option (List Char)}
    {closures : List Block} {links : List ChainLink} {afterArguments afterClosures after : Passage}
    (written : passage.text = name.chars ++ tail) (stops : Stops isIdentifierPart tail)
    (called : (passage.moveTo tail).callArguments? = some (arguments, afterArguments))
    (closed : afterArguments.blocks = (closures, afterClosures))
    (view : Outline.namesView name.string (arguments.isSome || !closures.isEmpty) = true)
    (chained : repeatStep link? afterClosures = (links, after)) :
    passage.scan? = some (⟨name.string, arguments, closures, links⟩, after) := by
  have view' : Outline.namesView (String.ofList name.chars)
      (Scan.isCalled ⟨String.ofList name.chars, arguments, closures, []⟩) = true := view
  unfold scan?
  rw [written, name.splitIdentifier?_append stops]
  simp only [Option.bind_eq_bind, Option.bind_some, called, closed, view', if_true, chained]
  rfl

/-- No expression begins with a name that stands for no view. -/
theorem scan?_eq_none {name : Identifier} {tail : List Char}
    (written : passage.text = name.chars ++ tail) (stops : Stops isIdentifierPart tail)
    (noView : ∀ isCalled, Outline.namesView name.string isCalled = false) :
    passage.scan? = none := by
  unfold scan?
  rw [written, name.splitIdentifier?_append stops]
  simp only [Option.bind_eq_bind, Option.bind_some]
  cases (passage.moveTo tail).callArguments? with
  | none => rfl
  | some called => exact if_neg (Bool.eq_false_iff.mp (noView _))

end ViewPreview.Passage
