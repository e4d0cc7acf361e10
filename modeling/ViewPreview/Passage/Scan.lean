import ViewPreview.Outline.Reading
import ViewPreview.Passage.Basic

/-!
# Scanning Expressions

How far an expression reaches in a passage, found by matching its brackets alone.  Every bracket of
a pair counts, also inside strings.  Arguments and closures are kept as text; the arguments of a
modifier end at the first closing parenthesis, so a modifier with parentheses inside its arguments
is passed over without being read.

The parts of a scanned expression are weighed by their lengths: together with what follows, they are
shorter than the passage they were scanned from.
-/

namespace ViewPreview.Passage

open ViewPreview.Text ViewPreview.Call

/-! ## Scanned expressions -/

/-- A closure with its label and the text between its braces. -/
structure Block where
  label : Option String
  inner : Passage
deriving Repr

/-- A link of a modifier chain: one with the text of its arguments and the text of its closure, or
one that is passed over. -/
inductive ChainLink where
  | call (line : Option Nat) (name : String) (arguments : List Char) (closure : Option Passage)
  | unread (line : Option Nat) (name : String)
deriving Repr

/-- An expression as it is scanned. -/
structure Scan where
  name : String
  arguments : Option (List Char)
  blocks : List Block
  links : List ChainLink
deriving Repr

/-- Whether a scanned expression is a call. -/
def Scan.isCalled (scan : Scan) : Bool :=
  scan.arguments.isSome || !scan.blocks.isEmpty

/-! ## Closures -/

/-- The closure directly behind a call, on the same line. -/
def unlabeledBlock (passage : Passage) : List Block × Passage :=
  match passage.trailingBlock? with
  | some (inner, rest) => ([⟨none, inner⟩], rest)
  | none => ([], passage)

/-- Split an identifier, whose later characters may be of any script, off the start of a text. -/
def splitName? : List Char → Option (List Char × List Char)
  | [] => none
  | c :: text =>
    if isIdentifierStart c then some (c :: text.takeWhile isWord, text.dropWhile isWord) else none

/-- A closure behind its label. -/
def labeledBlock? (passage : Passage) : Option (Block × Passage) :=
  let start := passage.skipBlanks
  match splitName? start.text with
  | none => none
  | some (label, rest) =>
    match trimStart rest with
    | ':' :: text =>
      ((start.moveTo (trimStart text)).block? '{' '}').map fun parts ↦
        (⟨some (String.ofList label), parts.1⟩, parts.2)
    | _ => none

/-- The closures behind a call. -/
def blocks (passage : Passage) : List Block × Passage :=
  let first := passage.unlabeledBlock
  let others := repeatStep labeledBlock? first.2
  (first.1 ++ others.1, others.2)

/-! ## Modifier chains -/

/-- The closure behind a modifier, on the same line. -/
def linkBlock (passage : Passage) : Option Passage × Passage :=
  match passage.trailingBlock? with
  | some (inner, rest) => (some inner, rest)
  | none => (none, passage)

/-- The passage after a call in parentheses, if they are closed. -/
def skipCall (passage : Passage) : Passage :=
  match passage.block? '(' ')' with
  | some (_, rest) => rest
  | none => passage

/-- The link that a modifier named at a line makes with what follows its name. -/
def linkAfterName? (line : Option Nat) (name : String) (passage : Passage) :
    Option (ChainLink × Passage) :=
  match passage.text with
  | '(' :: inner =>
    (splitFirst? ')' inner).map fun parts ↦
      if parts.1.contains '(' then (.unread line name, passage.skipCall.linkBlock.2)
      else
        let closure := (passage.moveTo parts.2).linkBlock
        (.call line name parts.1 closure.1, closure.2)
  | text =>
    if (trimStart text).head? == some '{' then
      let closure := passage.linkBlock
      some (.call line name [] closure.1, closure.2)
    else none

/-- The next link of a modifier chain. -/
def link? (passage : Passage) : Option (ChainLink × Passage) :=
  let start := passage.skipBlanks
  match start.text with
  | '.' :: text =>
    let name := text.takeWhile isWord
    if name.isEmpty then none
    else linkAfterName? start.line (String.ofList name) (start.moveTo (text.dropWhile isWord))
  | _ => none

/-! ## Expressions -/

/-- The argument text of a call, if the passage begins with a parenthesis.  A parenthesis that is
never closed is an error. -/
def callArguments? (passage : Passage) : Option (Option (List Char) × Passage) :=
  match passage.text with
  | '(' :: _ => (passage.block? '(' ')').map fun parts ↦ (some parts.1.text, parts.2)
  | _ => some (none, passage)

/-- Scan the expression that a passage begins with, if it stands for a view. -/
def scan? (passage : Passage) : Option (Scan × Passage) := do
  let (name, afterName) ← splitIdentifier? passage.text
  let (arguments, afterArguments) ← (passage.moveTo afterName).callArguments?
  let closures := afterArguments.blocks
  let head : Scan := ⟨String.ofList name, arguments, closures.1, []⟩
  if Outline.namesView head.name head.isCalled then
    let chain := repeatStep link? closures.2
    some ({ head with links := chain.1 }, chain.2)
  else none

/-! ## Weights -/

/-- The weight of a nested text: its length and one more for what encloses it. -/
def textWeight (text : List Char) : Nat :=
  text.length + 1

/-- The weight of a text that may be missing. -/
def optionalWeight (text : Option (List Char)) : Nat :=
  (text.map textWeight).getD 0

/-- The weight of a closure. -/
def Block.weight (block : Block) : Nat :=
  textWeight block.inner.text

/-- The weight of a link. -/
def ChainLink.weight : ChainLink → Nat
  | .call _ _ arguments closure => textWeight arguments + optionalWeight (closure.map Passage.text)
  | .unread _ _ => 0

/-- The weight of several parts together. -/
def totalWeight {α : Type} (weight : α → Nat) : List α → Nat
  | [] => 0
  | part :: parts => weight part + totalWeight weight parts

theorem totalWeight_append {α : Type} (weight : α → Nat) (first second : List α) :
    totalWeight weight (first ++ second) = totalWeight weight first + totalWeight weight second := by
  induction first with
  | nil => simp [totalWeight]
  | cons part parts ih =>
    simp only [List.cons_append, totalWeight, ih]
    omega

/-- The weight of a scanned expression. -/
def Scan.weight (scan : Scan) : Nat :=
  optionalWeight scan.arguments + totalWeight Block.weight scan.blocks +
    totalWeight ChainLink.weight scan.links

theorem totalWeight_repeatStep_le {α : Type} {step : Passage → Option (α × Passage)} {weight : α → Nat}
    (shrinks : ∀ passage found rest, step passage = some (found, rest) →
      weight found + rest.length ≤ passage.length) (passage : Passage) :
    totalWeight weight (repeatStep step passage).1 + (repeatStep step passage).2.length ≤
      passage.length := by
  fun_induction repeatStep step passage with
  | case1 passage noStep => simp [totalWeight]
  | case2 passage found rest oneStep shorter others ih =>
    have := shrinks _ _ _ oneStep
    simp only [totalWeight, others]
    omega
  | case3 passage found rest oneStep notShorter =>
    simpa [totalWeight] using shrinks _ _ _ oneStep

theorem length_trimStart_le (text : List Char) : (trimStart text).length ≤ text.length :=
  (List.dropWhile_suffix _).length_le

theorem length_splitFirst {separator : Char} {text before after : List Char}
    (split : splitFirst? separator text = some (before, after)) :
    before.length + after.length + 1 = text.length := by
  induction text generalizing before after with
  | nil => simp [splitFirst?] at split
  | cons c text ih =>
    unfold splitFirst? at split
    split at split
    · cases split
      simp
    · obtain ⟨⟨left, right⟩, found, same⟩ := Option.map_eq_some_iff.mp split
      have := ih found
      cases same
      simp only [List.length_cons]
      omega

theorem length_splitIdentifier {text name rest : List Char}
    (split : splitIdentifier? text = some (name, rest)) : rest.length < text.length := by
  cases text with
  | nil => simp [splitIdentifier?] at split
  | cons c text =>
    simp only [splitIdentifier?] at split
    split at split
    · cases split
      exact Nat.lt_succ_of_le (List.dropWhile_suffix _).length_le
    · cases split

theorem length_splitName {text name rest : List Char}
    (split : splitName? text = some (name, rest)) : rest.length < text.length := by
  cases text with
  | nil => simp [splitName?] at split
  | cons c text =>
    simp only [splitName?] at split
    split at split
    · cases split
      exact Nat.lt_succ_of_le (List.dropWhile_suffix _).length_le
    · cases split

theorem weight_unlabeledBlock_le (passage : Passage) :
    totalWeight Block.weight passage.unlabeledBlock.1 + passage.unlabeledBlock.2.length ≤
      passage.length := by
  unfold unlabeledBlock
  split
  · next inner rest found =>
    have := length_trailingBlock found
    simp only [totalWeight, Block.weight, textWeight]
    simp only [length] at *
    omega
  · simp [totalWeight]

theorem weight_labeledBlock_le (passage : Passage) (block : Block) (rest : Passage)
    (found : labeledBlock? passage = some (block, rest)) :
    block.weight + rest.length ≤ passage.length := by
  unfold labeledBlock? at found
  have start := length_skipWhile_le isAsciiBlank passage
  simp only [skipBlanks] at *
  split at found
  · cases found
  · next label afterLabel heq =>
    have := length_splitName heq
    split at found
    · next text colon =>
      obtain ⟨⟨left, right⟩, split, same⟩ := Option.map_eq_some_iff.mp found
      have := length_block split
      have := length_trimStart_le text
      have := length_trimStart_le afterLabel
      rw [colon] at this
      cases same
      simp only [Block.weight, textWeight, length, text_moveTo, List.length_cons] at *
      omega
    · cases found

theorem weight_blocks_le (passage : Passage) :
    totalWeight Block.weight passage.blocks.1 + passage.blocks.2.length ≤ passage.length := by
  have := weight_unlabeledBlock_le passage
  have := totalWeight_repeatStep_le weight_labeledBlock_le passage.unlabeledBlock.2
  simp only [blocks, totalWeight_append]
  omega

theorem weight_linkBlock_le (passage : Passage) :
    optionalWeight (passage.linkBlock.1.map Passage.text) + passage.linkBlock.2.length ≤
      passage.length := by
  unfold linkBlock
  split
  · next inner rest found =>
    have := length_trailingBlock found
    simp only [Option.map_some, optionalWeight, Option.getD_some, textWeight]
    simp only [length] at *
    omega
  · simp [optionalWeight]

theorem length_skipCall_le (passage : Passage) : passage.skipCall.length ≤ passage.length := by
  unfold skipCall
  split
  · next inner rest found =>
    have := length_block found
    omega
  · exact Nat.le_refl _

theorem weight_linkAfterName_le {line : Option Nat} {name : String} {passage rest : Passage}
    {link : ChainLink} (found : linkAfterName? line name passage = some (link, rest)) :
    link.weight + rest.length ≤ passage.length + 1 := by
  unfold linkAfterName? at found
  split at found
  · next inner heq =>
    obtain ⟨⟨left, right⟩, split, same⟩ := Option.map_eq_some_iff.mp found
    have lengths := length_splitFirst split
    split at same
    · cases same
      have := weight_linkBlock_le passage.skipCall
      have := length_skipCall_le passage
      simp only [ChainLink.weight]
      omega
    · cases same
      have := weight_linkBlock_le (passage.moveTo right)
      simp only [ChainLink.weight, textWeight]
      simp only [length, text_moveTo, heq, List.length_cons] at *
      omega
  · split at found
    · cases found
      have := weight_linkBlock_le passage
      simp only [ChainLink.weight, textWeight, List.length_nil]
      omega
    · cases found

theorem weight_link_le (passage : Passage) (link : ChainLink) (rest : Passage)
    (found : link? passage = some (link, rest)) : link.weight + rest.length ≤ passage.length := by
  unfold link? at found
  have start := length_skipWhile_le isAsciiBlank passage
  simp only [skipBlanks] at *
  split at found
  · next text heq =>
    split at found
    · cases found
    · next named =>
      have := weight_linkAfterName_le found
      have consumed : (text.dropWhile isWord).length < text.length := by
        have whole := List.takeWhile_append_dropWhile (p := isWord) (l := text)
        have : 0 < (text.takeWhile isWord).length := by
          cases h : text.takeWhile isWord with
          | nil => simp [h] at named
          | cons => simp
        have := congrArg List.length whole
        simp only [List.length_append] at this
        omega
      simp only [length, text_moveTo, heq, List.length_cons] at *
      omega
  · cases found

theorem weight_scan_lt {passage rest : Passage} {scan : Scan}
    (found : passage.scan? = some (scan, rest)) : scan.weight + rest.length < passage.length := by
  unfold scan? at found
  simp only [Option.bind_eq_bind, Option.bind_eq_some_iff] at found
  obtain ⟨⟨name, afterName⟩, splitName, ⟨arguments, afterArguments⟩, splitArguments, found⟩ := found
  split at found
  · cases found
    have named := length_splitIdentifier splitName
    have chained := totalWeight_repeatStep_le weight_link_le afterArguments.blocks.2
    have closed := weight_blocks_le afterArguments
    have argued : optionalWeight arguments + afterArguments.length ≤ afterName.length := by
      unfold callArguments? at splitArguments
      split at splitArguments
      · obtain ⟨⟨left, right⟩, split, same⟩ := Option.map_eq_some_iff.mp splitArguments
        have := length_block split
        cases same
        simp only [optionalWeight, Option.map_some, Option.getD_some, textWeight]
        simp only [length, text_moveTo] at *
        omega
      · cases splitArguments
        simp [optionalWeight]
    simp only [Scan.weight, length] at *
    omega
  · cases found

end ViewPreview.Passage
