import ViewPreview.Passage.Statement

/-!
# Outlines of Scanned Expressions

Reading the nested parts of a scanned expression: its closures as statements, and its arguments as
expressions where they are nothing but one expression.  Every nested expression weighs less than the
one around it.  Arguments are read apart from the source, so what is left out of their views is not
reported.
-/

namespace ViewPreview.Passage

open ViewPreview.Text ViewPreview.Call

/-! ## Arguments are no longer than the text they are read from -/

theorem length_trim_le (text : List Char) : (trim text).length ≤ text.length := by
  have front := length_trimStart_le text
  have back := (List.dropWhile_suffix isBlank (l := (trimStart text).reverse)).length_le
  rw [List.length_reverse] at back
  rw [trim, trimEnd, List.length_reverse]
  exact Nat.le_trans back front

theorem length_le_of_mem_splitFrom {separator : Char} {place : Place} {text part : List Char}
    (member : part ∈ splitFrom separator place text) : part.length ≤ text.length := by
  induction text generalizing place part with
  | nil =>
    exact Nat.le_of_eq (congrArg List.length (List.mem_singleton.mp member))
  | cons c text ih =>
    unfold splitFrom at member
    split at member
    · rcases List.mem_cons.mp member with rfl | later
      · simp
      · exact Nat.le_succ_of_le (ih later)
    · split at member
      · rw [List.mem_singleton.mp member]
        simp
      · next head tail heq =>
        have headBound := ih (heq ▸ List.mem_cons_self)
        rcases List.mem_cons.mp member with rfl | later
        · exact Nat.succ_le_succ headBound
        · exact Nat.le_succ_of_le (ih (heq ▸ List.mem_cons_of_mem _ later))

theorem length_splitLabel_le {text value : List Char} {label : String}
    (split : splitLabel? text = some (label, value)) : value.length ≤ text.length := by
  unfold splitLabel? at split
  split at split
  · next name rest heq =>
    split at split
    · next after colon =>
      have := length_splitIdentifier heq
      have := length_trimStart_le text
      have bound := length_trimStart_le rest
      rw [colon, List.length_cons] at bound
      cases split
      omega
    · cases split
  · cases split

theorem length_argument_le (part : List Char) :
    (Argument.ofText part).text.length ≤ part.length := by
  unfold Argument.ofText
  split
  · next label value heq =>
    have := length_splitLabel_le heq
    have := length_trim_le value
    simp only
    omega
  · exact length_trim_le part

theorem length_le_of_mem_argumentsOf {inner : List Char} {argument : Argument}
    (member : argument ∈ argumentsOf inner) : argument.text.length ≤ inner.length := by
  obtain ⟨part, kept, rfl⟩ := List.mem_map.mp member
  have := length_le_of_mem_splitFrom (List.mem_filter.mp kept).1
  have := length_argument_le part
  omega

/-! ## Expressions in arguments -/

/-- The expression that a text consists of, blanks apart. -/
def wholeScan? (text : List Char) : Option Scan :=
  match scan? ⟨none, trim text⟩ with
  | some (scan, rest) => if rest.text.all isAsciiBlank then some scan else none
  | none => none

theorem weight_wholeScan_lt {text : List Char} {scan : Scan} (found : wholeScan? text = some scan) :
    scan.weight < text.length := by
  unfold wholeScan? at found
  split at found
  · next whole rest heq =>
    have := weight_scan_lt heq
    have := length_trim_le text
    simp only [length] at *
    split at found
    · cases found
      omega
    · cases found
  · cases found

/-! ## Outlines -/

/-- A reading of the expressions nested in something of a given weight. -/
abbrev Within (weight : Nat) : Type :=
  (inner : Scan) → inner.weight < weight → Outline.Expression

/-- An argument and its expression. -/
def argumentOutline {weight : Nat} (read : Within weight) (argument : Argument)
    (lighter : argument.text.length < weight) : Outline.Argument Outline.Expression :=
  { label := argument.label
    text := argument.text
    expression := (wholeScan? argument.text).pmap read fun _ found ↦
      Nat.lt_trans (weight_wholeScan_lt found) lighter }

/-- The arguments in a text. -/
def argumentOutlines {weight : Nat} (read : Within weight) (text : List Char)
    (lighter : text.length < weight) : List (Outline.Argument Outline.Expression) :=
  (argumentsOf text).pmap (argumentOutline read) fun _ member ↦
    Nat.lt_of_le_of_lt (length_le_of_mem_argumentsOf member) lighter

/-- A statement and its expression. -/
def statementOutline {weight : Nat} (read : Within weight) (statement : ScannedStatement)
    (lighter : ∀ scan, statement.scan = some scan → scan.weight < weight) :
    Outline.Statement Outline.Expression :=
  { line := statement.start.line
    text := statement.start.text
    expression := statement.scan.pmap read lighter }

/-- A closure, its parameter and its statements. -/
def closureOutline {weight : Nat} (read : Within weight) (label : Option String) (inner : Passage)
    (lighter : inner.length < weight) : Outline.Closure Outline.Expression :=
  { label
    parameter := inner.splitParameter.1
    statements := inner.splitParameter.2.scannedStatements.pmap (statementOutline read)
      fun _ member _ scanned ↦
        Nat.lt_of_lt_of_le (weight_lt_of_mem_scannedStatements member scanned)
          (Nat.le_of_lt (Nat.lt_of_le_of_lt (length_splitParameter_le inner) lighter)) }

theorem length_arguments_lt {weight : Nat} {line : Option Nat} {name : String}
    {arguments : List Char} {closure : Option Passage}
    (lighter : (ChainLink.call line name arguments closure).weight ≤ weight) :
    arguments.length < weight := by
  simp only [ChainLink.weight, textWeight] at lighter
  omega

theorem length_closure_lt {weight : Nat} {line : Option Nat} {name : String}
    {arguments : List Char} {inner : Passage}
    (lighter : (ChainLink.call line name arguments (some inner)).weight ≤ weight) :
    inner.length < weight := by
  simp only [ChainLink.weight, optionalWeight, Option.map_some, Option.getD_some,
    textWeight] at lighter
  simp only [length]
  omega

/-- A link and what is nested in it. -/
def linkOutline {weight : Nat} (read : Within weight) :
    (link : ChainLink) → link.weight ≤ weight → Outline.Link Outline.Expression
  | .unread line name, _ => .unread line name
  | .call line name arguments none, lighter =>
    .call line name
      { arguments := argumentOutlines read arguments (length_arguments_lt lighter) }
  | .call line name arguments (some inner), lighter =>
    .call line name
      { arguments := argumentOutlines read arguments (length_arguments_lt lighter)
        closures := [closureOutline read none inner (length_closure_lt lighter)] }

theorem le_totalWeight_of_mem {α : Type} (weight : α → Nat) {items : List α} {item : α}
    (member : item ∈ items) : weight item ≤ totalWeight weight items := by
  induction items with
  | nil => cases member
  | cons head tail ih =>
    rw [totalWeight]
    rcases List.mem_cons.mp member with rfl | later
    · omega
    · have := ih later
      omega

theorem Scan.length_block_lt {scan : Scan} {block : Block} (member : block ∈ scan.blocks) :
    block.inner.length < scan.weight := by
  have := le_totalWeight_of_mem Block.weight member
  simp only [Scan.weight, Block.weight, textWeight, length] at *
  omega

theorem Scan.weight_link_le {scan : Scan} {link : ChainLink} (member : link ∈ scan.links) :
    link.weight ≤ scan.weight := by
  have := le_totalWeight_of_mem ChainLink.weight member
  simp only [Scan.weight] at *
  omega

/-- The arguments of a scanned call. -/
def Scan.argumentOutlines (scan : Scan) (read : Within scan.weight) :
    List (Outline.Argument Outline.Expression) :=
  match written : scan.arguments with
  | none => []
  | some text => Passage.argumentOutlines read text (by
      simp only [Scan.weight, written, optionalWeight, Option.map_some, Option.getD_some,
        textWeight]
      omega)

/-- The closures of a scanned call. -/
def Scan.closureOutlines (scan : Scan) (read : Within scan.weight) :
    List (Outline.Closure Outline.Expression) :=
  scan.blocks.pmap (fun block ↦ closureOutline read block.label block.inner) fun _ member ↦
    Scan.length_block_lt member

/-- The modifier chain of a scanned expression. -/
def Scan.linkOutlines (scan : Scan) (read : Within scan.weight) :
    List (Outline.Link Outline.Expression) :=
  scan.links.pmap (linkOutline read) fun _ member ↦ Scan.weight_link_le member

/-- The outline of a scanned expression, given a reading of those nested in it. -/
def Scan.outlineWith (scan : Scan) (read : Within scan.weight) : Outline.Expression :=
  { name := scan.name
    call :=
      if scan.isCalled then some ⟨scan.argumentOutlines read, scan.closureOutlines read⟩ else none
    links := scan.linkOutlines read }

/-- The outline of a scanned expression. -/
def Scan.outline (scan : Scan) : Outline.Expression :=
  scan.outlineWith fun inner _ ↦ inner.outline
termination_by scan.weight

/-- The expression that a passage begins with, and what follows it. -/
def expression? (passage : Passage) : Option (Outline.Expression × Passage) :=
  passage.scan?.map fun found ↦ (found.1.outline, found.2)

end ViewPreview.Passage
