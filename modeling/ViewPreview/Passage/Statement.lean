import ViewPreview.Passage.Scan

/-!
# Statements of a Block

The statements between the braces of a closure.  A statement that is no view expression ends with
its line, or later when it opens brackets that are not closed on that line.  Before the statements a
closure may name its parameters.
-/

namespace ViewPreview.Passage

open ViewPreview.Text ViewPreview.Call

/-! ## Statements -/

/-- A statement: where it starts, and its expression if it is one. -/
structure ScannedStatement where
  start : Passage
  scan : Option Scan
deriving Repr

/-- The text after a statement that is no expression, `depth` brackets into it. -/
def dropStatement : (depth : Int) → List Char → List Char
  | _, [] => []
  | depth, c :: text =>
    if c = '{' || c = '(' || c = '[' then dropStatement (depth + 1) text
    else if c = '}' || c = ')' || c = ']' then dropStatement (depth - 1) text
    else if c = '\n' && depth ≤ 0 then text
    else dropStatement depth text

/-- The next statement of a block. -/
def statement? (passage : Passage) : Option (ScannedStatement × Passage) :=
  let start := passage.skipWhile fun c ↦ isAsciiBlank c || c == ';'
  if start.text.isEmpty then none
  else match start.scan? with
    | some (scan, rest) => some (⟨start, some scan⟩, rest)
    | none => some (⟨start, none⟩, start.moveTo (dropStatement 0 start.text))

/-- The statements of a block. -/
def scannedStatements (passage : Passage) : List ScannedStatement :=
  (repeatStep statement? passage).1

/-! ## Parameters -/

/-- The text after the names that follow the first one in a list, with a comma before each. -/
def afterNames? (text : List Char) : Option (List Char) :=
  match _list : trimStart text with
  | ',' :: names =>
    match _next : splitName? (trimStart names) with
    | some (_, rest) => afterNames? rest
    | none => none
  | _ => some text
termination_by text.length
decreasing_by
  have := length_splitName _next
  have := length_trimStart_le names
  have := length_trimStart_le text
  rw [_list, List.length_cons] at this
  omega

/-- The text after the word `in`. -/
def afterIn? : List Char → Option (List Char)
  | 'i' :: 'n' :: text =>
    match text with
    | c :: _ => if isWord c then none else some text
    | [] => some []
  | _ => none

/-- The text after the word `in` with at least one blank before it. -/
def afterBlankIn? : List Char → Option (List Char)
  | c :: text => if isBlank c then afterIn? (trimStart text) else none
  | [] => none

/-- The text after a parenthesis that may open a list of parameters. -/
def afterOpening (text : List Char) : List Char :=
  match trimStart text with
  | '(' :: rest => trimStart rest
  | rest => rest

/-- The text after the end of a list of parameters: an optional parenthesis, blanks and the word
`in`. -/
def afterParameters? (text : List Char) : Option (List Char) :=
  match trimStart text with
  | ')' :: rest => afterBlankIn? rest
  | _ => afterBlankIn? text

/-- The first parameter that a closure names, and the text after its parameters. -/
def parameter? (text : List Char) : Option (String × List Char) := do
  let (name, afterName) ← splitName? (afterOpening text)
  let tail ← afterNames? afterName
  let statements ← afterParameters? tail
  some (String.ofList name, statements)

/-- The first parameter of a closure, if it names any, and its statements as a passage. -/
def splitParameter (inner : Passage) : Option String × Passage :=
  match parameter? inner.text with
  | some (name, rest) => (some name, inner.moveTo rest)
  | none => (none, inner)

/-! ## Lengths -/

theorem mem_repeatStep {α : Type} {step : Passage → Option (α × Passage)} {passage : Passage}
    {found : α} (member : found ∈ (repeatStep step passage).1) :
    ∃ start rest, step start = some (found, rest) ∧ start.length ≤ passage.length := by
  fun_induction repeatStep step passage with
  | case1 passage noStep => simp at member
  | case2 passage head rest oneStep shorter others ih =>
    rcases List.mem_cons.mp member with rfl | later
    · exact ⟨passage, rest, oneStep, Nat.le_refl _⟩
    · obtain ⟨start, last, earlier, bound⟩ := ih later
      exact ⟨start, last, earlier, by omega⟩
  | case3 passage head rest oneStep notShorter =>
    rw [List.mem_singleton.mp member]
    exact ⟨passage, rest, oneStep, Nat.le_refl _⟩

theorem weight_lt_of_mem_scannedStatements {passage : Passage} {statement : ScannedStatement}
    (member : statement ∈ passage.scannedStatements) {scan : Scan}
    (scanned : statement.scan = some scan) : scan.weight < passage.length := by
  obtain ⟨start, rest, found, bound⟩ := mem_repeatStep member
  unfold statement? at found
  have skipped := length_skipWhile_le (fun c ↦ isAsciiBlank c || c == ';') start
  simp only at found
  split at found
  · cases found
  · split at found
    · next scanned' _ heq =>
      cases found
      cases scanned
      have := weight_scan_lt heq
      omega
    · cases found
      cases scanned

theorem length_afterNames_le {text rest : List Char} (found : afterNames? text = some rest) :
    rest.length ≤ text.length := by
  fun_induction afterNames? text with
  | case1 text names list name after next ih =>
    have := ih found
    have := length_splitName next
    have := length_trimStart_le names
    have := length_trimStart_le text
    rw [list, List.length_cons] at this
    omega
  | case2 => cases found
  | case3 => cases found; exact Nat.le_refl _

theorem length_afterBlankIn_le {text rest : List Char} (found : afterBlankIn? text = some rest) :
    rest.length ≤ text.length := by
  unfold afterBlankIn? at found
  split at found
  · next c text =>
    split at found
    · have := length_trimStart_le text
      unfold afterIn? at found
      split at found
      · next inner heq =>
        rw [heq] at this
        simp only [List.length_cons] at *
        split at found
        · split at found
          · cases found
          · cases found
            simp only [List.length_cons] at *
            omega
        · cases found
          simp
      · cases found
    · cases found
  · cases found

theorem length_afterOpening_le (text : List Char) : (afterOpening text).length ≤ text.length := by
  unfold afterOpening
  have bound := length_trimStart_le text
  split
  · next inner heq =>
    have := length_trimStart_le inner
    rw [heq, List.length_cons] at bound
    omega
  · exact bound

theorem length_afterParameters_le {text rest : List Char}
    (found : afterParameters? text = some rest) : rest.length ≤ text.length := by
  unfold afterParameters? at found
  split at found
  · next after heq =>
    have := length_afterBlankIn_le found
    have := length_trimStart_le text
    rw [heq] at this
    simp only [List.length_cons] at *
    omega
  · exact length_afterBlankIn_le found

theorem length_parameter_le {text rest : List Char} {name : String}
    (found : parameter? text = some (name, rest)) : rest.length ≤ text.length := by
  unfold parameter? at found
  simp only [Option.bind_eq_bind, Option.bind_eq_some_iff] at found
  obtain ⟨⟨first, afterName⟩, named, tail, listed, statements, ended, same⟩ := found
  cases same
  have := length_splitName named
  have := length_afterNames_le listed
  have := length_afterOpening_le text
  have := length_afterParameters_le ended
  simp only at *
  omega

theorem length_splitParameter_le (inner : Passage) :
    inner.splitParameter.2.length ≤ inner.length := by
  unfold splitParameter
  split
  · next name rest found => exact length_parameter_le found
  · exact Nat.le_refl _

end ViewPreview.Passage
