import Mathlib
import ViewPreview.Preview
import ViewPreview.Proofs.Passage.Declaration
import ViewPreview.Proofs.Passage.Insertion
import ViewPreview.Proofs.Passage.Outline
import ViewPreview.Proofs.Token.Lexeme

/-!
# What Follows an Expression

An expression is scanned from its own text alone: any other text may follow it that does not go on
with it.  Nothing looks at what is left of a body behind its expression, so any such text, balanced
in braces, can be inserted there without being noticed.
-/

namespace ViewPreview.Passage

open ViewPreview.Text ViewPreview.Call ViewPreview.Outline

variable {line : Option Nat} {text : List Char} {after : Passage}

/-! ## Blanks and blocks -/

theorem skipWhile_eq (condition : Char → Bool) (line : Option Nat) (text : List Char) :
    (⟨line, text⟩ : Passage).skipWhile condition =
      ⟨line.map (· + lineFeeds (text.takeWhile condition)), text.dropWhile condition⟩ := by
  have parts : text = text.takeWhile condition ++ text.dropWhile condition :=
    List.takeWhile_append_dropWhile.symm
  have moved := moveTo_append line (text.takeWhile condition) (text.dropWhile condition)
  rwa [← parts] at moved

/-- Skipping a run does not depend on what follows the character it stops at. -/
theorem skipWhile_append {condition : Char → Bool} (line : Option Nat) {run rest : List Char}
    (all : ∀ c ∈ run, condition c = true) (stops : Stops condition rest) :
    (⟨line, run ++ rest⟩ : Passage).skipWhile condition =
      ⟨line.map (· + lineFeeds run), rest⟩ := by
  rw [skipWhile_eq, takeWhile_append_of_stops all stops, dropWhile_append_of_stops all stops]

/-- A block is read off whatever follows it. -/
theorem block?_eq_some {opening closing : Char} {inner : Passage}
    (found : block? opening closing ⟨line, text⟩ = some (inner, after)) :
    ∃ content, text = opening :: (content ++ after.text) ∧ closing ∈ content ∧
      ∀ rest, block? opening closing ⟨line, opening :: (content ++ rest)⟩ =
        some (inner, ⟨after.line, rest⟩) := by
  unfold block? at found
  cases text with
  | nil => cases found
  | cons c text =>
    simp only at found
    split at found
    · next isOpening =>
      subst isOpening
      obtain ⟨⟨content, behind⟩, split, same⟩ := Option.map_eq_some_iff.mp found
      cases same
      have shape := append_of_splitClosing? split
      subst shape
      have start (rest : List Char) : (⟨line, c :: rest⟩ : Passage).moveTo rest =
          ⟨line.map (· + lineFeeds [c]), rest⟩ := moveTo_append line [c] rest
      have finish (rest : List Char) :
          (⟨line, c :: (content ++ closing :: rest)⟩ : Passage).moveTo rest =
            ⟨line.map (· + lineFeeds (c :: content ++ [closing])), rest⟩ :=
        moveTo_append_cons line (c :: content) closing rest
      refine ⟨content ++ [closing], ?_, List.mem_concat_self, fun rest ↦ ?_⟩
      · rw [List.append_assoc, List.singleton_append]
        rfl
      · rw [List.append_assoc, List.singleton_append, block?]
        simp only [if_true, splitClosing?_of_some split rest, Option.map_some, start, finish]
    · cases found

/-- A closure on the same line is read off whatever follows it. -/
theorem trailingBlock?_eq_some {inner : Passage}
    (found : trailingBlock? ⟨line, text⟩ = some (inner, after)) :
    ∃ blanks content, text = blanks ++ '{' :: (content ++ after.text) ∧
      (∀ c ∈ blanks, isInlineBlank c = true) ∧
      ∀ rest, trailingBlock? ⟨line, blanks ++ '{' :: (content ++ rest)⟩ =
        some (inner, ⟨after.line, rest⟩) := by
  unfold trailingBlock? skipInlineBlanks at found ⊢
  rw [skipWhile_eq] at found
  obtain ⟨content, written, -, stable⟩ := block?_eq_some found
  have blank : ∀ c ∈ text.takeWhile isInlineBlank, isInlineBlank c = true :=
    List.all_eq_true.mp List.all_takeWhile
  refine ⟨text.takeWhile isInlineBlank, content, ?_, blank, fun rest ↦ ?_⟩
  · rw [← written, List.takeWhile_append_dropWhile]
  · rw [skipWhile_append line blank (stops_cons.mpr (by decide))]
    exact stable rest

/-! ## Repeated steps -/

/-- Whether a text goes on, behind ASCII blanks, with a character of some kind. -/
def GoesOn (kind : Char → Prop) (text : List Char) : Prop :=
  ∃ blanks c tail, text = blanks ++ c :: tail ∧ (∀ d ∈ blanks, isAsciiBlank d = true) ∧ kind c

theorem GoesOn.append {kind : Char → Prop} (goesOn : GoesOn kind text) (rest : List Char) :
    GoesOn kind (text ++ rest) := by
  obtain ⟨blanks, c, tail, rfl, blank, isKind⟩ := goesOn
  exact ⟨blanks, c, tail ++ rest, List.append_assoc .., blank, isKind⟩

theorem GoesOn.head_dropWhile {kind : Char → Prop} (goesOn : GoesOn kind text)
    (visible : ∀ c, kind c → isAsciiBlank c = false) :
    ∃ c, kind c ∧ (text.dropWhile isAsciiBlank).head? = some c := by
  obtain ⟨blanks, c, tail, rfl, blank, isKind⟩ := goesOn
  refine ⟨c, isKind, ?_⟩
  rw [dropWhile_append_of_stops blank (stops_cons.mpr (visible c isKind))]
  rfl

theorem GoesOn.head_trimStart {kind : Char → Prop} (goesOn : GoesOn kind text)
    (visible : ∀ c, kind c → isBlank c = false) :
    ∃ c, kind c ∧ (trimStart text).head? = some c := by
  obtain ⟨blanks, c, tail, rfl, blank, isKind⟩ := goesOn
  refine ⟨c, isKind, ?_⟩
  have blanks_ : ∀ d ∈ blanks, isBlank d = true := fun d member ↦
    isAsciiBlank_isBlank (blank d member)
  rw [trimStart, dropWhile_append_of_stops blanks_ (stops_cons.mpr (visible c isKind))]
  rfl

theorem GoesOn.ne_nil {kind : Char → Prop} (goesOn : GoesOn kind text) : text ≠ [] := by
  obtain ⟨blanks, c, tail, rfl, -, -⟩ := goesOn
  exact List.append_ne_nil_of_right_ne_nil blanks (List.cons_ne_nil c tail)

/-- A step that reads what begins with a character of some kind off the front of a text, whatever
fitting text follows.  It finds nothing in a text that ends it. -/
structure ReadsOff {α : Type} (step : Passage → Option (α × Passage)) (kind : Char → Prop)
    (fits ends : List Char → Prop) : Prop where
  step_eq : ∀ {line text found after}, step ⟨line, text⟩ = some (found, after) → fits after.text →
    ∃ front, text = front ++ after.text ∧ GoesOn kind front ∧
      ∀ rest, fits rest → step ⟨line, front ++ rest⟩ = some (found, ⟨after.line, rest⟩)
  fits_of_goesOn : ∀ {text}, GoesOn kind text → fits text
  step_eq_none : ∀ {line rest}, ends rest → step ⟨line, rest⟩ = none

section Repeat

variable {α : Type} {step : Passage → Option (α × Passage)} {kind : Char → Prop}
  {fits ends : List Char → Prop}

theorem fits_append {front rest : List Char} (readsOff : ReadsOff step kind fits ends)
    (goesOn : front = [] ∨ GoesOn kind front) (fit : fits rest) : fits (front ++ rest) := by
  rcases goesOn with rfl | goesOn
  · exact fit
  · exact readsOff.fits_of_goesOn (goesOn.append rest)

theorem length_lt_append {front : List Char} (nonempty : front ≠ []) (rest : List Char) :
    rest.length < (front ++ rest).length := by
  rw [List.length_append]
  have := List.length_pos_iff.mpr nonempty
  omega

/-- What a repeated step reads is read off whatever fitting text ends it. -/
theorem exists_repeatStep_append (readsOff : ReadsOff step kind fits ends) (passage : Passage)
    (fit : fits (repeatStep step passage).2.text) :
    ∃ front, passage.text = front ++ (repeatStep step passage).2.text ∧
      (front = [] ∨ GoesOn kind front) ∧
      ∀ rest, fits rest → ends rest →
        repeatStep step ⟨passage.line, front ++ rest⟩ =
          ((repeatStep step passage).1, ⟨(repeatStep step passage).2.line, rest⟩) := by
  fun_induction repeatStep step passage with
  | case1 passage noStep =>
    refine ⟨[], rfl, Or.inl rfl, fun rest _ ended ↦ ?_⟩
    exact repeatStep_eq_nil (readsOff.step_eq_none ended)
  | case2 passage found behind moved shorter others ih =>
    obtain ⟨later, left, goesOnLater, goOn⟩ := ih fit
    have fitBehind : fits behind.text := by
      rw [left]
      exact fits_append readsOff goesOnLater fit
    obtain ⟨first, written, goesOn, stable⟩ := readsOff.step_eq moved fitBehind
    refine ⟨first ++ later, ?_, Or.inr (goesOn.append later), fun rest fit ended ↦ ?_⟩
    · rw [List.append_assoc, ← left]
      exact written
    · have stepStill := stable (later ++ rest) (fits_append readsOff goesOnLater fit)
      rw [List.append_assoc, repeatStep_cons stepStill (length_lt_append goesOn.ne_nil _),
        goOn rest fit ended]
  | case3 passage found behind moved notShorter =>
    obtain ⟨front, written, goesOn, -⟩ := readsOff.step_eq moved fit
    apply absurd _ notShorter
    show behind.text.length < passage.text.length
    rw [written]
    exact length_lt_append goesOn.ne_nil _

end Repeat

/-! ## Closures of modifiers -/

theorem trimStart_inlineBlanks_append {blanks rest : List Char} {c : Char}
    (blank : ∀ c ∈ blanks, isInlineBlank c = true) (visible : isBlank c = false) :
    trimStart (blanks ++ c :: rest) = c :: rest := by
  apply dropWhile_append_of_stops
  · intro c member
    have inline := blank c member
    simp only [isInlineBlank, Bool.or_eq_true, beq_iff_eq] at inline
    rcases inline with rfl | rfl
    · decide
    · decide
  · exact stops_cons.mpr visible

/-- Whether the name of a modifier cannot go on into a text as a call. -/
def NoBracket (rest : List Char) : Prop :=
  ∀ c ∈ (trimStart rest).head?, c ∉ ['(', '{']

theorem NoBracket.noBlock {rest : List Char} (noBracket : NoBracket rest) : NoBlock rest := by
  intro brace
  cases visible : rest.dropWhile isInlineBlank with
  | nil =>
    rw [visible] at brace
    cases brace
  | cons c others =>
    rw [visible] at brace
    obtain rfl := Option.some.inj brace
    obtain ⟨blanks, rfl, blank⟩ := exists_run_of_dropWhile visible
    have absent := noBracket '{' (by rw [trimStart_inlineBlanks_append blank (by decide)]; rfl)
    exact absent (by decide)

/-- The closure of a modifier is read off whatever follows it. -/
theorem linkBlock_eq {passage : Passage} {closure : Option Passage}
    (found : passage.linkBlock = (closure, after)) :
    (closure = none ∧ after = passage) ∨
      ∃ blanks content, passage.text = blanks ++ '{' :: (content ++ after.text) ∧
        (∀ c ∈ blanks, isInlineBlank c = true) ∧
        ∀ rest, linkBlock ⟨passage.line, blanks ++ '{' :: (content ++ rest)⟩ =
          (closure, ⟨after.line, rest⟩) := by
  unfold linkBlock at found ⊢
  split at found
  · next inner behind block =>
    cases found
    obtain ⟨blanks, content, written, blank, stable⟩ := trailingBlock?_eq_some block
    refine Or.inr ⟨blanks, content, written, blank, fun rest ↦ ?_⟩
    rw [stable]
  · cases found
    exact Or.inl ⟨rfl, rfl⟩

theorem linkBlock_of_noBlock {rest : List Char} (noBlock : NoBlock rest) :
    linkBlock ⟨line, rest⟩ = (none, ⟨line, rest⟩) := by
  rw [linkBlock, trailingBlock?_eq_none noBlock]

/-- The optional closure of a modifier is read off whatever follows it, unless that is a closure. -/
theorem exists_linkBlock_append {passage : Passage} {closure : Option Passage}
    (found : passage.linkBlock = (closure, after)) :
    ∃ front, passage.text = front ++ after.text ∧
      ∀ rest, NoBlock rest →
        linkBlock ⟨passage.line, front ++ rest⟩ = (closure, ⟨after.line, rest⟩) := by
  rcases linkBlock_eq found with ⟨rfl, rfl⟩ | ⟨blanks, content, written, -, stable⟩
  · exact ⟨[], rfl, fun rest noBlock ↦ linkBlock_of_noBlock noBlock⟩
  · refine ⟨blanks ++ '{' :: content, ?_, fun rest _ ↦ ?_⟩
    · rw [List.append_assoc, List.cons_append]
      exact written
    · rw [List.append_assoc, List.cons_append]
      exact stable rest

/-! ## Modifiers -/

section AfterName

variable {start : Option Nat} {name : String} {link : ChainLink} {closure : Option Passage}
  {inner arguments behind : List Char}

theorem linkAfterName?_of_closure (noParenthesis : text.head? ≠ some '(')
    (opens : (trimStart text).head? = some '{')
    (closed : linkBlock ⟨line, text⟩ = (closure, after)) :
    linkAfterName? start name ⟨line, text⟩ = some (.call start name [] closure, after) := by
  unfold linkAfterName?
  split
  · next inner written => exact absurd (congrArg List.head? written) noParenthesis
  · simp only [opens, beq_self_eq_true, if_true, closed]

/-- Parentheses that are closed are passed over whatever follows them. -/
theorem exists_skipCall_append
    (passed : (skipCall ⟨line, '(' :: inner⟩).text.head? ≠ some '(') :
    ∃ content, inner = content ++ (skipCall ⟨line, '(' :: inner⟩).text ∧ ')' ∈ content ∧
      ∀ rest, skipCall ⟨line, '(' :: (content ++ rest)⟩ =
        ⟨(skipCall ⟨line, '(' :: inner⟩).line, rest⟩ := by
  unfold skipCall at passed ⊢
  cases closed : block? '(' ')' ⟨line, '(' :: inner⟩ with
  | none =>
    rw [closed] at passed
    exact absurd rfl passed
  | some parts =>
    obtain ⟨content, written, member, stable⟩ := block?_eq_some closed
    refine ⟨content, (List.cons.inj written).2, member, fun rest ↦ ?_⟩
    rw [stable]

theorem NoBracket.head_ne {rest : List Char} (noBracket : NoBracket rest) :
    rest.head? ≠ some '(' := by
  intro parenthesis
  cases rest with
  | nil => cases parenthesis
  | cons c rest =>
    obtain rfl := Option.some.inj parenthesis
    exact noBracket '(' rfl List.mem_cons_self

/-- A modifier with nested parentheses is passed over whatever follows it. -/
theorem linkAfterName?_nested_append
    (split : splitFirst? ')' inner = some (arguments, behind))
    (nested : arguments.contains '(' = true)
    (closed : (skipCall ⟨line, '(' :: inner⟩).linkBlock = (closure, after))
    (noBracket : NoBracket after.text) :
    ∃ front, '(' :: inner = front ++ after.text ∧ front ≠ [] ∧
      ∀ rest, NoBlock rest → linkAfterName? start name ⟨line, front ++ rest⟩ =
        some (.unread start name, ⟨after.line, rest⟩) := by
  have passed : (skipCall ⟨line, '(' :: inner⟩).text.head? ≠ some '(' := by
    rcases linkBlock_eq closed with ⟨-, stays⟩ | ⟨blanks, content, written, blank, -⟩
    · rw [← stays]
      exact noBracket.head_ne
    · rw [written]
      intro parenthesis
      cases blanks with
      | nil => exact absurd (Option.some.inj parenthesis) (by decide)
      | cons c blanks =>
        obtain rfl := Option.some.inj parenthesis
        exact absurd (blank '(' List.mem_cons_self) (by decide)
  obtain ⟨content, written, member, passes⟩ := exists_skipCall_append passed
  obtain ⟨front, whole, stable⟩ := exists_linkBlock_append closed
  obtain ⟨before, more, splits⟩ := exists_splitFirst?_append member
  have same : arguments = before := by
    rw [written, splits] at split
    exact (congrArg Prod.fst (Option.some.inj split)).symm
  subst same
  refine ⟨'(' :: (content ++ front), ?_, List.cons_ne_nil _ _, fun rest noBlock ↦ ?_⟩
  · rw [List.cons_append, List.append_assoc, ← whole, ← written]
  · have skipped := passes (front ++ rest)
    have block := stable rest noBlock
    rw [List.cons_append, List.append_assoc, linkAfterName?_of_nested (splits _) nested, skipped,
      block]

/-- The call of a modifier is read off whatever follows it, unless its brackets are not closed. -/
theorem linkAfterName?_eq_some
    (found : linkAfterName? start name ⟨line, text⟩ = some (link, after))
    (noBracket : NoBracket after.text) :
    ∃ front, text = front ++ after.text ∧ front ≠ [] ∧
      ∀ rest, NoBlock rest → linkAfterName? start name ⟨line, front ++ rest⟩ =
        some (link, ⟨after.line, rest⟩) := by
  have isFound := found
  unfold linkAfterName? at found
  split at found
  · next inner written =>
    obtain ⟨⟨arguments, behind⟩, split, -⟩ := Option.map_eq_some_iff.mp found
    change text = '(' :: inner at written
    subst written
    by_cases nested : arguments.contains '(' = true
    · rcases closed : (skipCall ⟨line, '(' :: inner⟩).linkBlock with ⟨closure, other⟩
      rw [linkAfterName?_of_nested split nested, closed] at isFound
      obtain ⟨rfl, rfl⟩ := Prod.mk.inj (Option.some.inj isFound)
      exact linkAfterName?_nested_append split nested closed noBracket
    · obtain ⟨rfl, absent⟩ := append_of_splitFirst? split
      rcases closed : linkBlock ⟨line.map (· + lineFeeds arguments), behind⟩ with ⟨closure, other⟩
      rw [linkAfterName?_of_flat absent nested closed] at isFound
      obtain ⟨rfl, rfl⟩ := Prod.mk.inj (Option.some.inj isFound)
      obtain ⟨front, rfl, stable⟩ := exists_linkBlock_append closed
      refine ⟨'(' :: (arguments ++ ')' :: front), ?_, List.cons_ne_nil _ _, fun rest noBlock ↦ ?_⟩
      · simp only [List.cons_append, List.append_assoc]
      · have whole : linkAfterName? start name
            ⟨line, '(' :: (arguments ++ ')' :: (front ++ rest))⟩ =
              some (.call start name arguments closure, ⟨other.line, rest⟩) :=
          linkAfterName?_of_flat absent nested (stable rest noBlock)
        simpa only [List.cons_append, List.append_assoc] using whole
  · next other noParenthesis =>
    split at found
    · next opens =>
      change ((trimStart text).head? == some '{') = true at opens
      rw [beq_iff_eq] at opens
      have noHead : text.head? ≠ some '(' := by
        intro parenthesis
        cases text with
        | nil => cases parenthesis
        | cons c text =>
          obtain rfl := Option.some.inj parenthesis
          exact noParenthesis text rfl
      rcases closed : linkBlock ⟨line, text⟩ with ⟨closure, other⟩
      rw [linkAfterName?_of_closure noHead opens closed] at isFound
      obtain ⟨rfl, rfl⟩ := Prod.mk.inj (Option.some.inj isFound)
      rcases linkBlock_eq closed with ⟨-, rfl⟩ | ⟨blanks, content, written, blank, stable⟩
      · exact absurd (by decide) (noBracket '{' opens)
      · change text = blanks ++ '{' :: (content ++ other.text) at written
        refine ⟨blanks ++ '{' :: content, ?_, by simp, fun rest _ ↦ ?_⟩
        · rw [written, List.append_assoc, List.cons_append]
        · rw [List.append_assoc, List.cons_append]
          apply linkAfterName?_of_closure _ _ (stable rest)
          · intro parenthesis
            apply noHead
            rw [written]
            cases blanks with
            | nil => exact parenthesis
            | cons c blanks => exact parenthesis
          · rw [trimStart_inlineBlanks_append blank (by decide)]
            rfl
    · cases found

end AfterName

/-- A text that goes on with anything else does not go on with a bracket. -/
theorem noBracket_of_goesOn {kind : Char → Prop} (goesOn : GoesOn kind text)
    (other : ∀ c, kind c → isBlank c = false ∧ c ∉ ['(', '{']) : NoBracket text := by
  obtain ⟨c, isKind, head⟩ := goesOn.head_trimStart fun c isKind ↦ (other c isKind).1
  intro d member
  rw [head] at member
  obtain rfl := Option.some.inj member
  exact (other c isKind).2

theorem noBracket_of_goesOn_dot (goesOn : GoesOn (· = '.') text) : NoBracket text :=
  noBracket_of_goesOn goesOn (by rintro c rfl; decide)

theorem noLabel_of_goesOn_dot (goesOn : GoesOn (· = '.') text) : NoLabel text := by
  obtain ⟨c, rfl, head⟩ := goesOn.head_dropWhile (by rintro c rfl; decide)
  intro label after split
  cases visible : text.dropWhile isAsciiBlank with
  | nil =>
    rw [visible] at head
    cases head
  | cons d others =>
    rw [visible] at head split
    obtain rfl := Option.some.inj head
    cases split

theorem noBracket_of_goesOn_start (goesOn : GoesOn (isIdentifierStart · = true) text) :
    NoBracket text := by
  apply noBracket_of_goesOn goesOn
  intro c start
  have part := isIdentifierPart_of_isIdentifierStart start
  refine ⟨not_isBlank_of_isIdentifierPart part, ?_⟩
  intro member
  rcases List.mem_cons.mp member with rfl | member
  · exact absurd part (by decide)
  · rw [List.mem_singleton.mp member] at part
    exact absurd part (by decide)

theorem link?_append {blanks name rest : List Char}
    (blank : ∀ c ∈ blanks, isAsciiBlank c = true) (word : ∀ c ∈ name, isWord c = true)
    (named : name ≠ []) (stops : Stops isWord rest) :
    link? ⟨line, blanks ++ '.' :: (name ++ rest)⟩ =
      linkAfterName? (line.map (· + lineFeeds blanks)) (String.ofList name)
        ⟨(line.map (· + lineFeeds blanks)).map (· + lineFeeds ('.' :: name)), rest⟩ := by
  have start := skipWhile_append line blank
    (show Stops isAsciiBlank ('.' :: (name ++ rest)) from stops_cons.mpr (by decide))
  have moved := moveTo_append (line.map (· + lineFeeds blanks)) ('.' :: name) rest
  rw [List.cons_append] at moved
  have nonempty : name.isEmpty = false := List.isEmpty_eq_false_iff.mpr named
  unfold link?
  simp only [skipBlanks, start, takeWhile_append_of_stops word stops,
    dropWhile_append_of_stops word stops, nonempty, Bool.false_eq_true, if_false, moved]

/-- A link begins with a dot and a name behind blanks. -/
theorem exists_of_link? {link : ChainLink} (found : link? ⟨line, text⟩ = some (link, after)) :
    ∃ blanks name rest, text = blanks ++ '.' :: (name ++ rest) ∧
      (∀ c ∈ blanks, isAsciiBlank c = true) ∧ (∀ c ∈ name, isWord c = true) ∧ name ≠ [] ∧
      Stops isWord rest := by
  unfold link? at found
  simp only [skipBlanks, skipWhile_eq] at found
  split at found
  · next tail written =>
    split at found
    · cases found
    · next named =>
      obtain ⟨blanks, rfl, blank⟩ := exists_run_of_dropWhile written
      refine ⟨blanks, tail.takeWhile isWord, tail.dropWhile isWord, ?_, blank,
        List.all_eq_true.mp List.all_takeWhile, ?_, stops_dropWhile isWord tail⟩
      · rw [List.takeWhile_append_dropWhile]
      · intro empty
        exact named (List.isEmpty_iff.mpr empty)
  · cases found

/-- A link of a modifier chain is read off whatever follows it, unless its brackets are not
closed. -/
theorem link?_eq_some {link : ChainLink} (found : link? ⟨line, text⟩ = some (link, after))
    (noBracket : NoBracket after.text) :
    ∃ front, text = front ++ after.text ∧ GoesOn (· = '.') front ∧
      ∀ rest, NoBlock rest → link? ⟨line, front ++ rest⟩ = some (link, ⟨after.line, rest⟩) := by
  obtain ⟨blanks, name, tail, rfl, blank, word, named, stops⟩ := exists_of_link? found
  rw [link?_append blank word named stops] at found
  obtain ⟨front, written, nonempty, stable⟩ := linkAfterName?_eq_some found noBracket
  refine ⟨blanks ++ '.' :: (name ++ front), ?_, ⟨blanks, '.', name ++ front, rfl, blank, rfl⟩,
    fun rest noBlock ↦ ?_⟩
  · rw [written]
    simp only [List.append_assoc, List.cons_append]
  · have stopsStill := stops_append_of_ne_nil nonempty (written ▸ stops) rest
    rw [List.append_assoc, List.cons_append, List.append_assoc,
      link?_append blank word named stopsStill]
    exact stable rest noBlock

theorem readsOff_link? : ReadsOff link? (· = '.') NoBracket NoLink where
  step_eq found noBracket := by
    obtain ⟨front, written, goesOn, stable⟩ := link?_eq_some found noBracket
    exact ⟨front, written, goesOn, fun rest noBracket ↦ stable rest noBracket.noBlock⟩
  fits_of_goesOn goesOn := noBracket_of_goesOn_dot goesOn
  step_eq_none noLink := link?_eq_none noLink

/-! ## Labeled closures -/

/-- A label as it is written, with the blanks before it, before its colon and behind its colon. -/
structure Label where
  blanks : List Char
  first : Char
  others : List Char
  gap : List Char
  indent : List Char
  blank : ∀ c ∈ blanks, isAsciiBlank c = true
  start : isIdentifierStart first = true
  word : ∀ c ∈ others, isWord c = true
  stops : Stops isWord (gap ++ [':'])
  gapBlank : ∀ c ∈ gap, isBlank c = true
  indentBlank : ∀ c ∈ indent, isBlank c = true

namespace Label

/-- A label from its first character on. -/
def written (label : Label) : List Char :=
  label.first :: (label.others ++ (label.gap ++ ':' :: label.indent))

theorem labeledBlock?_append (label : Label) (line : Option Nat) (rest : List Char) :
    labeledBlock? ⟨line, label.blanks ++ (label.written ++ '{' :: rest)⟩ =
      (block? '{' '}' ⟨(line.map (· + lineFeeds label.blanks)).map (· + lineFeeds label.written),
        '{' :: rest⟩).map fun parts ↦
          (⟨some (String.ofList (label.first :: label.others)), parts.1⟩, parts.2) := by
  have visible : isAsciiBlank label.first = false :=
    not_isAsciiBlank_of_isIdentifierPart (isIdentifierPart_of_isIdentifierStart label.start)
  have start := skipWhile_append line label.blank
    (show Stops isAsciiBlank (label.written ++ '{' :: rest) from stops_cons.mpr visible)
  have shape : label.written ++ '{' :: rest = label.first ::
      (label.others ++ (label.gap ++ ':' :: (label.indent ++ '{' :: rest))) := by
    simp only [written, List.cons_append, List.append_assoc]
  have stops : Stops isWord (label.gap ++ ':' :: (label.indent ++ '{' :: rest)) :=
    stops_append_cons label.stops _
  have split : splitName? (label.written ++ '{' :: rest) = some (label.first :: label.others,
      label.gap ++ ':' :: (label.indent ++ '{' :: rest)) := by
    rw [shape, splitName?, if_pos label.start, takeWhile_append_of_stops label.word stops,
      dropWhile_append_of_stops label.word stops]
  have colon : trimStart (label.gap ++ ':' :: (label.indent ++ '{' :: rest)) =
      ':' :: (label.indent ++ '{' :: rest) :=
    dropWhile_append_of_stops label.gapBlank (stops_cons.mpr (by decide))
  have brace : trimStart (label.indent ++ '{' :: rest) = '{' :: rest :=
    dropWhile_append_of_stops label.indentBlank (stops_cons.mpr (by decide))
  unfold labeledBlock?
  simp only [skipBlanks, start, split, colon, brace, moveTo_append]

end Label

/-- A labeled closure begins with its label. -/
theorem exists_label {block : Block} (found : labeledBlock? ⟨line, text⟩ = some (block, after)) :
    ∃ (label : Label) (rest : List Char), text = label.blanks ++ (label.written ++ '{' :: rest) := by
  unfold labeledBlock? at found
  simp only [skipBlanks, skipWhile_eq] at found
  cases visible : text.dropWhile isAsciiBlank with
  | nil =>
    rw [visible] at found
    cases found
  | cons first others =>
    rw [visible, splitName?] at found
    by_cases start : isIdentifierStart first = true
    · simp only [start, if_true] at found
      split at found
      · next tail colon =>
        obtain ⟨⟨inner, behind⟩, isBlock, -⟩ := Option.map_eq_some_iff.mp found
        obtain ⟨content, brace, -, -⟩ := block?_eq_some isBlock
        have stops := stops_dropWhile isWord others
        obtain ⟨blanks, rfl, blank⟩ := exists_run_of_dropWhile visible
        obtain ⟨gap, afterName, gapBlank⟩ := exists_run_of_dropWhile colon
        obtain ⟨word, rfl, isWords⟩ := exists_run_of_dropWhile afterName
        obtain ⟨indent, rfl, indentBlank⟩ := exists_run_of_dropWhile brace
        rw [afterName] at stops
        refine ⟨⟨blanks, first, word, gap, indent, blank, start, isWords,
          stops_append_cons stops [], gapBlank, indentBlank⟩, content ++ behind.text, ?_⟩
        simp only [Label.written, List.cons_append, List.append_assoc]
      · cases found
    · simp only [start] at found
      cases found

theorem readsOff_labeledBlock? :
    ReadsOff labeledBlock? (isIdentifierStart · = true) (fun _ ↦ True) NoLabel where
  step_eq {line text block after} found _ := by
    obtain ⟨label, tail, rfl⟩ := exists_label found
    rw [label.labeledBlock?_append] at found
    obtain ⟨⟨inner, behind⟩, isBlock, same⟩ := Option.map_eq_some_iff.mp found
    obtain ⟨rfl, rfl⟩ := Prod.mk.inj same
    obtain ⟨content, written, -, stable⟩ := block?_eq_some isBlock
    obtain ⟨-, rfl⟩ := List.cons.inj written
    refine ⟨label.blanks ++ (label.written ++ '{' :: content), ?_,
      ⟨label.blanks, label.first, _, rfl, label.blank, label.start⟩, fun rest _ ↦ ?_⟩
    · simp only [List.append_assoc, List.cons_append]
    · rw [List.append_assoc, List.append_assoc, List.cons_append, label.labeledBlock?_append,
        stable]
      rfl
  fits_of_goesOn _ := trivial
  step_eq_none noLabel := labeledBlock?_eq_none noLabel.noLabeledBlock

/-- The closure directly behind a call is read off whatever follows it, unless that is a closure. -/
theorem exists_unlabeledBlock_append (passage : Passage) :
    ∃ front, passage.text = front ++ passage.unlabeledBlock.2.text ∧
      ∀ rest, NoBlock rest → unlabeledBlock ⟨passage.line, front ++ rest⟩ =
        (passage.unlabeledBlock.1, ⟨passage.unlabeledBlock.2.line, rest⟩) := by
  unfold unlabeledBlock
  cases block : passage.trailingBlock? with
  | none =>
    refine ⟨[], rfl, fun rest noBlock ↦ ?_⟩
    rw [List.nil_append, trailingBlock?_eq_none noBlock]
  | some parts =>
    obtain ⟨blanks, content, written, -, stable⟩ := trailingBlock?_eq_some block
    refine ⟨blanks ++ '{' :: content, ?_, fun rest _ ↦ ?_⟩
    · rw [List.append_assoc, List.cons_append]
      exact written
    · rw [List.append_assoc, List.cons_append, stable]

/-- The closures behind a call are read off whatever follows them, unless that is a closure. -/
theorem exists_blocks_append (passage : Passage) :
    ∃ front, passage.text = front ++ passage.blocks.2.text ∧
      ∀ rest, NoBlock rest → NoLabel rest → blocks ⟨passage.line, front ++ rest⟩ =
        (passage.blocks.1, ⟨passage.blocks.2.line, rest⟩) := by
  obtain ⟨first, written, stable⟩ := exists_unlabeledBlock_append passage
  obtain ⟨later, left, goesOn, goOn⟩ :=
    exists_repeatStep_append readsOff_labeledBlock? passage.unlabeledBlock.2 trivial
  refine ⟨first ++ later, ?_, fun rest noBlock noLabel ↦ ?_⟩
  · rw [written, left, List.append_assoc]
    rfl
  · have noBlockLater : NoBlock (later ++ rest) := by
      rcases goesOn with rfl | goesOn
      · exact noBlock
      · exact (noBracket_of_goesOn_start (goesOn.append rest)).noBlock
    rw [List.append_assoc, blocks, stable _ noBlockLater]
    simp only [goOn rest trivial noLabel]
    rfl

/-! ## Expressions -/

/-- The arguments of a call are read off whatever follows them, unless they are missing and an
opening parenthesis follows. -/
theorem exists_callArguments_append {arguments : Option (List Char)}
    (found : callArguments? ⟨line, text⟩ = some (arguments, after)) :
    ∃ front, text = front ++ after.text ∧ (front = [] → after.text.head? ≠ some '(') ∧
      ∀ rest, (front = [] → rest.head? ≠ some '(') →
        callArguments? ⟨line, front ++ rest⟩ = some (arguments, ⟨after.line, rest⟩) := by
  by_cases parenthesis : text.head? = some '('
  · cases text with
    | nil => cases parenthesis
    | cons c text =>
      obtain rfl := Option.some.inj parenthesis
      obtain ⟨parts, isBlock, same⟩ := Option.map_eq_some_iff.mp
        (show (block? '(' ')' ⟨line, '(' :: text⟩).map _ = _ from found)
      obtain ⟨rfl, rfl⟩ := Prod.mk.inj same
      obtain ⟨content, written, -, stable⟩ := block?_eq_some isBlock
      refine ⟨'(' :: content, written, fun empty ↦ ?_, fun rest _ ↦ ?_⟩
      · cases empty
      · show (block? '(' ')' ⟨line, '(' :: (content ++ rest)⟩).map _ = _
        rw [stable]
        rfl
  · rw [callArguments?_uncalled parenthesis] at found
    obtain ⟨rfl, rfl⟩ := Prod.mk.inj (Option.some.inj found)
    exact ⟨[], rfl, fun _ ↦ parenthesis, fun rest other ↦ callArguments?_uncalled (other rfl)⟩

/-- Whether a text stands apart from an expression before it. -/
structure Apart (rest : List Char) : Prop where
  stops : Stops isIdentifierPart rest
  noBracket : NoBracket rest
  noLabel : NoLabel rest
  noLink : NoLink rest

/-- An operator behind a blank stands apart. -/
theorem apart_cons {c : Char} (visible : isBlank c = false) (noName : isIdentifierStart c = false)
    (noMark : c ∉ ['(', '{', '.']) (rest : List Char) : Apart (' ' :: c :: rest) := by
  have noBlank : isAsciiBlank c = false := by
    rw [Bool.eq_false_iff]
    intro blank
    rw [isAsciiBlank_isBlank blank] at visible
    exact Bool.noConfusion visible
  have skipped : (' ' :: c :: rest).dropWhile isAsciiBlank = c :: rest :=
    dropWhile_append_of_stops (List.forall_mem_singleton.mpr (by decide)) (stops_cons.mpr noBlank)
  have trimmed : trimStart (' ' :: c :: rest) = c :: rest := by
    rw [trimStart_cons_of_isBlank (by decide)]
    exact dropWhile_eq_self_of_stops (stops_cons.mpr visible)
  refine ⟨stops_cons.mpr (by decide), ?_, ?_, ?_⟩
  · rw [NoBracket, trimmed]
    intro d member
    obtain rfl := Option.some.inj member
    exact fun bracket ↦ noMark (List.mem_append_left ['.'] bracket)
  · rw [NoLabel, skipped]
    intro label after split
    rw [splitName?, noName] at split
    cases split
  · rw [NoLink, skipped]
    intro dot
    obtain rfl := Option.some.inj dot
    exact noMark (by decide)

theorem head_append_ne {front rest other : List Char} {c : Char}
    (before : (front ++ other).head? ≠ some c) (behind : rest.head? ≠ some c) :
    (front ++ rest).head? ≠ some c := by
  cases front with
  | nil => exact behind
  | cons d front => exact before

theorem stops_append {condition : Char → Bool} {front rest other : List Char}
    (before : Stops condition (front ++ other)) (behind : Stops condition rest) :
    Stops condition (front ++ rest) := by
  cases front with
  | nil => exact behind
  | cons d front => exact before

/-- An expression is read off whatever stands apart from it. -/
theorem scan?_eq_some {scan : Scan} (found : scan? ⟨line, text⟩ = some (scan, after))
    (noBracket : NoBracket after.text) :
    ∃ (name : Identifier) (tail : List Char), text = name.chars ++ (tail ++ after.text) ∧
      ∀ rest, Apart rest →
        scan? ⟨line, name.chars ++ (tail ++ rest)⟩ = some (scan, ⟨after.line, rest⟩) := by
  simp only [scan?, Option.bind_eq_bind, Option.bind_eq_some_iff] at found
  obtain ⟨⟨start, behind⟩, split, ⟨arguments, afterArguments⟩, called, found⟩ := found
  split at found
  · next isView =>
    obtain ⟨rfl, rfl⟩ := Prod.mk.inj (Option.some.inj found)
    obtain ⟨name, rfl, rfl, stops⟩ := Identifier.exists_of_splitIdentifier? split
    simp only [moveTo_append] at called
    obtain ⟨first, afterName, noParenthesis, callStill⟩ := exists_callArguments_append called
    obtain ⟨second, afterCall, closeStill⟩ := exists_blocks_append afterArguments
    obtain ⟨third, afterClosures, isChain, chainStill⟩ :=
      exists_repeatStep_append readsOff_link? afterArguments.blocks.2 noBracket
    subst afterName
    refine ⟨name, first ++ (second ++ third), ?_, fun rest apart ↦ ?_⟩
    · rw [afterCall, afterClosures]
      simp only [List.append_assoc]
    · have fromName : Stops isIdentifierPart (first ++ (second ++ (third ++ rest))) := by
        rw [afterCall, afterClosures] at stops
        simp only [← List.append_assoc] at stops ⊢
        exact stops_append stops apart.stops
      have fromCall : first = [] → (second ++ (third ++ rest)).head? ≠ some '(' := by
        intro empty
        have head := noParenthesis empty
        rw [afterCall, afterClosures] at head
        simp only [← List.append_assoc] at head ⊢
        exact head_append_ne head apart.noBracket.head_ne
      have fromClosures : NoBracket (third ++ rest) :=
        fits_append readsOff_link? isChain apart.noBracket
      have noLabel : NoLabel (third ++ rest) := by
        rcases isChain with rfl | goesOn
        · exact apart.noLabel
        · exact noLabel_of_goesOn_dot (goesOn.append rest)
      have calledStill :
          ((⟨line, name.chars ++ (first ++ (second ++ (third ++ rest)))⟩ : Passage).moveTo
            (first ++ (second ++ (third ++ rest)))).callArguments? =
              some (arguments, ⟨afterArguments.line, second ++ (third ++ rest)⟩) := by
        rw [moveTo_append]
        exact callStill _ fromCall
      have closedStill := closeStill _ fromClosures.noBlock noLabel
      have chainedStill := chainStill rest apart.noBracket apart.noLink
      rw [List.append_assoc, List.append_assoc]
      exact scan?_eq rfl fromName calledStill closedStill isView chainedStill
  · cases found

/-- A scanned expression stands for a view. -/
theorem exists_view_of_scan? {passage : Passage} {scan : Scan}
    (found : passage.scan? = some (scan, after)) :
    ∃ reading, scan.outline.view? = some reading := by
  simp only [scan?, Option.bind_eq_bind, Option.bind_eq_some_iff] at found
  obtain ⟨⟨start, behind⟩, -, ⟨arguments, afterArguments⟩, -, found⟩ := found
  split at found
  · next isView =>
    obtain ⟨rfl, rfl⟩ := Prod.mk.inj (Option.some.inj found)
    have called (scan : Scan) : scan.call.isSome = scan.isCalled := by
      unfold Scan.call
      split
      · next isCalled => rw [isCalled, Option.isSome_some]
      · next isCalled => rw [Bool.eq_false_iff.mpr isCalled, Option.isSome_none]
    rw [outline_eq, Expression.view?, called]
    exact ⟨_, if_pos isView⟩
  · cases found

/-! ## Bodies -/

/-- What is left of the body of a source behind its expression. -/
def remainder? (source : List Char) : Option (List Char) := do
  let (_, body) ← body? source
  let (_, after) ← body.expressionStart.scan?
  some after.text

theorem view_readFrom {declaration : Declaration} {body : Passage} {scan : Scan}
    {reading : Reading View} (scanned : body.expressionStart.scan? = some (scan, after))
    (shown : scan.outline.view? = some reading) :
    (readFrom declaration body).view = .ok ⟨reading.value, declaration.caveats ++ reading.caveats⟩ := by
  rw [Body.view, readFrom, expression?, scanned]
  simp only [Option.map_some, optionalView?, shown]

/-- The expression of a body is found again whatever stands apart from it. -/
theorem scan?_expressionStart {scan : Scan}
    (scanned : (⟨line, text⟩ : Passage).expressionStart.scan? = some (scan, after))
    (noBracket : NoBracket after.text) :
    ∃ front, text = front ++ after.text ∧
      ∀ rest, Apart rest → ∃ other : Passage, other.text = rest ∧
        (⟨line, front ++ rest⟩ : Passage).expressionStart.scan? = some (scan, other) := by
  rw [expressionStart_of_scan? (Option.ne_none_iff_exists'.mpr ⟨_, scanned⟩), skipBlanks,
    skipWhile_eq] at scanned
  obtain ⟨name, tail, written, stable⟩ := scan?_eq_some scanned noBracket
  have blank : ∀ c ∈ text.takeWhile isAsciiBlank, isAsciiBlank c = true :=
    List.all_eq_true.mp List.all_takeWhile
  refine ⟨text.takeWhile isAsciiBlank ++ (name.chars ++ tail), ?_, fun rest apart ↦
    ⟨⟨after.line, rest⟩, rfl, ?_⟩⟩
  · rw [List.append_assoc, List.append_assoc, ← written, List.takeWhile_append_dropWhile]
  · have stops : Stops isAsciiBlank (name.chars ++ (tail ++ rest)) := by
      obtain ⟨first, others, same, isStart, -⟩ := name.exists_chars
      rw [same]
      exact stops_cons.mpr (not_isAsciiBlank_of_isIdentifierPart
        (isIdentifierPart_of_isIdentifierStart isStart))
    have skipped : (⟨line, text.takeWhile isAsciiBlank ++ (name.chars ++ (tail ++ rest))⟩ :
        Passage).skipBlanks = ⟨line.map (· + lineFeeds (text.takeWhile isAsciiBlank)),
          name.chars ++ (tail ++ rest)⟩ := skipWhile_append line blank stops
    have found := stable rest apart
    rw [← skipped] at found
    rw [List.append_assoc, List.append_assoc,
      expressionStart_eq (Option.ne_none_iff_exists'.mpr ⟨_, found⟩)]
    exact found

/-- A text that stands apart from the expression of a body can be inserted behind it: it becomes a
part of what is left of the body, and the reading stays the same. -/
theorem view_insert_remainder {source remainder : List Char}
    (left : remainder? source = some remainder) (noBracket : NoBracket remainder) :
    ∃ front back, source = front ++ (remainder ++ back) ∧
      ∀ inserted, Balanced '{' '}' inserted → Apart (inserted ++ remainder) →
        remainder? (front ++ (inserted ++ (remainder ++ back))) = some (inserted ++ remainder) ∧
          (readBody (front ++ (inserted ++ (remainder ++ back)))).bind Body.view =
            (readBody source).bind Body.view := by
  simp only [remainder?, Option.bind_eq_bind, Option.bind_eq_some_iff] at left
  obtain ⟨⟨declaration, body⟩, isBody, ⟨scan, after⟩, scanned, same⟩ := left
  obtain rfl := Option.some.inj same
  obtain ⟨reading, shown⟩ := exists_view_of_scan? scanned
  obtain ⟨line, text⟩ := body
  obtain ⟨before, written, scanStill⟩ := scan?_expressionStart scanned noBracket
  obtain ⟨front, back, whole, bodyStill⟩ := body?_insert isBody written
  refine ⟨front, back, whole, fun inserted balanced apart ↦ ?_⟩
  obtain ⟨declaration', isBodyStill, caveats⟩ := bodyStill inserted balanced
  obtain ⟨after', left, scannedStill⟩ := scanStill _ apart
  constructor
  · simp only [remainder?, isBodyStill, Option.bind_eq_bind, Option.bind_some, scannedStill, left]
  · rw [readBody_eq isBodyStill, readBody_eq isBody]
    show Body.view _ = Body.view _
    rw [view_readFrom scannedStill shown, view_readFrom scanned shown, caveats]

theorem view_insert_remainder_sum :
    remainder? "struct A: View \x7b var body: some View \x7b Text(\"a\") \x7d \x7d".toList =
        some [' '] ∧
      NoBracket [' '] ∧
      ∃ front back,
        "struct A: View \x7b var body: some View \x7b Text(\"a\") \x7d \x7d".toList =
          front ++ ([' '] ++ back) ∧
        remainder? (front ++ (" + Text(\"b\")".toList ++ ([' '] ++ back))) =
          some (" + Text(\"b\")".toList ++ [' ']) ∧
        (readBody (front ++ (" + Text(\"b\")".toList ++ ([' '] ++ back)))).bind Body.view =
          (readBody
            "struct A: View \x7b var body: some View \x7b Text(\"a\") \x7d \x7d".toList).bind
              Body.view := by
  have left :
      remainder? "struct A: View \x7b var body: some View \x7b Text(\"a\") \x7d \x7d".toList =
        some [' '] := by cbv
  have noBracket : NoBracket [' '] := by
    rintro c ⟨⟩
  obtain ⟨front, back, written, inserts⟩ := view_insert_remainder left noBracket
  have balanced : Balanced '{' '}' " + Text(\"b\")".toList :=
    balanced_of_all (by decide)
  have apart : Apart (" + Text(\"b\")".toList ++ [' ']) :=
    apart_cons (by decide) (by decide) (by decide) _
  exact ⟨left, noBracket, front, back, written, inserts _ balanced apart⟩

/-- A sum of texts is read as its first text alone, without any message, where the structure of the
source shows that it is no view. -/
theorem sum_of_texts_disagrees :
    Preview.ofSource .fallback
        "struct A: View \x7b var body: some View \x7b Text(\"a\") + Text(\"b\") \x7d \x7d" =
      ⟨some (View.ofText "a"), []⟩ ∧
    Preview.ofSource .structural
        "struct A: View \x7b var body: some View \x7b Text(\"a\") + Text(\"b\") \x7d \x7d" =
      ⟨none, ["Unsupported body expression: Text(\"a\") + Text(\"b\")"]⟩ := by
  constructor
  · cbv
  · have refused : (Preview.ofSource .structural
        "struct A: View \x7b var body: some View \x7b Text(\"a\") + Text(\"b\") \x7d \x7d").root.isNone =
          true ∧
        (Preview.ofSource .structural
          "struct A: View \x7b var body: some View \x7b Text(\"a\") + Text(\"b\") \x7d \x7d").messages =
            ["Unsupported body expression: Text(\"a\") + Text(\"b\")"] := by
      unfold Preview.ofSource Preview.readBody
      simp only [Backend.resolved]
      unfold readStructure itemsOf
      rw [tokens_eq_tokensWithin]
      decide +kernel
    obtain ⟨noRoot, messages⟩ := refused
    rw [Option.isNone_iff_eq_none] at noRoot
    exact congr (congrArg Preview.mk noRoot) messages

end ViewPreview.Passage
