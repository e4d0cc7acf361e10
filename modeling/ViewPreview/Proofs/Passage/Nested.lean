import ViewPreview.Proofs.Passage.Cursor
import ViewPreview.Proofs.Passage.Progress

/-!
# Nested Texts Are Shorter

What an expression leaves to be read later, its arguments and its closures, is nested in it between
brackets.  So each of these texts takes fewer bytes than the text that the expression was scanned
from.
-/

namespace ViewPreview.Passage

open ViewPreview.Text ViewPreview.Call

theorem Leads.utf8Length_le {passage rest : Passage} (leads : Leads passage rest) :
    utf8Length rest.text ≤ utf8Length passage.text :=
  utf8Length_le_of_isInfix leads.suffix.isInfix

/-! ## Arguments -/

theorem isInfix_trim (text : List Char) : trim text <:+: text := by
  have front : trim text <+: trimStart text := by
    rw [trim, trimEnd, ← List.reverse_suffix, List.reverse_reverse]
    exact List.dropWhile_suffix isBlank
  exact front.isInfix.trans (trimStart_suffix text).isInfix

theorem utf8Length_le_of_mem_splitFrom {separator : Char} {place : Place} {text part : List Char}
    (member : part ∈ splitFrom separator place text) : utf8Length part ≤ utf8Length text := by
  induction text generalizing place part with
  | nil =>
    exact Nat.le_of_eq (congrArg utf8Length (List.mem_singleton.mp member))
  | cons c text ih =>
    rw [utf8Length_cons]
    unfold splitFrom at member
    split at member
    · rcases List.mem_cons.mp member with rfl | later
      · exact Nat.zero_le _
      · exact Nat.le_add_left_of_le (ih later)
    · split at member
      · rw [List.mem_singleton.mp member, utf8Length_cons, utf8Length_nil]
        omega
      · next head tail parts =>
        have headBound := ih (parts ▸ List.mem_cons_self)
        rcases List.mem_cons.mp member with rfl | later
        · rw [utf8Length_cons]
          omega
        · exact Nat.le_add_left_of_le (ih (parts ▸ List.mem_cons_of_mem _ later))

theorem suffix_of_splitLabel? {text value : List Char} {label : String}
    (split : splitLabel? text = some (label, value)) : value <:+ text := by
  unfold splitLabel? at split
  split at split
  · next name rest named =>
    split at split
    · next after colon =>
      cases split
      have toColon : ':' :: value <:+ rest := by
        rw [← colon]
        exact trimStart_suffix rest
      have toRest : rest <:+ trimStart text := ⟨name, (append_of_splitIdentifier? named).symm⟩
      exact (((List.suffix_cons ':' value).trans toColon).trans toRest).trans
        (trimStart_suffix text)
    · cases split
  · cases split

theorem isInfix_argument (part : List Char) : (Argument.ofText part).text <:+: part := by
  unfold Argument.ofText
  split
  · next label value split =>
    exact (isInfix_trim value).trans (suffix_of_splitLabel? split).isInfix
  · exact isInfix_trim part

theorem utf8Length_le_of_mem_argumentsOf {inner : List Char} {argument : Argument}
    (member : argument ∈ argumentsOf inner) : utf8Length argument.text ≤ utf8Length inner := by
  obtain ⟨part, kept, rfl⟩ := List.mem_map.mp member
  exact Nat.le_trans (utf8Length_le_of_isInfix (isInfix_argument part))
    (utf8Length_le_of_mem_splitFrom (List.mem_filter.mp kept).1)

/-! ## Expressions -/

/-- Whether the texts of a link are shorter than a bound. -/
def ChainLink.FitsIn (bound : Nat) : ChainLink → Prop
  | .unread _ _ => True
  | .call _ _ arguments closure =>
    utf8Length arguments < bound ∧ ∀ inner ∈ closure, utf8Length inner.text < bound

/-- Whether the texts that are nested in a scanned expression are shorter than a bound. -/
structure Scan.FitsIn (scan : Scan) (bound : Nat) : Prop where
  arguments : ∀ text ∈ scan.arguments, utf8Length text < bound
  blocks : ∀ block ∈ scan.blocks, utf8Length block.inner.text < bound
  links : ∀ link ∈ scan.links, link.FitsIn bound

section Mono

variable {bound other : Nat}

theorem ChainLink.FitsIn.mono {link : ChainLink} (fits : link.FitsIn bound)
    (larger : bound ≤ other) : link.FitsIn other := by
  cases link with
  | unread => trivial
  | call line name arguments closure =>
    exact ⟨Nat.lt_of_lt_of_le fits.1 larger,
      fun inner member ↦ Nat.lt_of_lt_of_le (fits.2 inner member) larger⟩

theorem Scan.FitsIn.mono {scan : Scan} (fits : scan.FitsIn bound) (larger : bound ≤ other) :
    scan.FitsIn other where
  arguments := fun text member ↦ Nat.lt_of_lt_of_le (fits.arguments text member) larger
  blocks := fun block member ↦ Nat.lt_of_lt_of_le (fits.blocks block member) larger
  links := fun link member ↦ (fits.links link member).mono larger

theorem utf8Length_lt_of_mem_argumentTexts {inner text : List Char}
    (shorter : utf8Length inner < bound) (member : text ∈ argumentTexts inner) :
    utf8Length text < bound := by
  obtain ⟨argument, inside, rfl⟩ := List.mem_map.mp member
  calc utf8Length (trim argument.text)
    _ ≤ utf8Length argument.text := utf8Length_le_of_isInfix (isInfix_trim argument.text)
    _ ≤ utf8Length inner := utf8Length_le_of_mem_argumentsOf inside
    _ < bound := shorter

theorem utf8Length_statementsText_le (inner : Passage) :
    utf8Length (statementsText inner) ≤ utf8Length inner.text :=
  (leads_splitParameter inner).utf8Length_le

theorem ChainLink.FitsIn.utf8Length_lt {link : ChainLink} (fits : link.FitsIn bound)
    {text : List Char} (member : text ∈ link.nestedTexts) : utf8Length text < bound := by
  cases link with
  | unread => cases member
  | call line name arguments closure =>
    rcases List.mem_append.mp member with argument | nested
    · exact utf8Length_lt_of_mem_argumentTexts fits.1 argument
    · obtain ⟨inner, inside, rfl⟩ := List.mem_map.mp nested
      exact Nat.lt_of_le_of_lt (utf8Length_statementsText_le inner)
        (fits.2 inner (Option.mem_toList.mp inside))

theorem Scan.FitsIn.utf8Length_lt {scan : Scan} (fits : scan.FitsIn bound) {text : List Char}
    (member : text ∈ scan.nestedTexts) : utf8Length text < bound := by
  rcases List.mem_append.mp member with called | linked
  · rcases List.mem_append.mp called with argument | nested
    · obtain ⟨inner, inside, isArgument⟩ := List.mem_flatMap.mp argument
      exact utf8Length_lt_of_mem_argumentTexts
        (fits.arguments inner (Option.mem_toList.mp inside)) isArgument
    · obtain ⟨block, inside, rfl⟩ := List.mem_map.mp nested
      exact Nat.lt_of_le_of_lt (utf8Length_statementsText_le block.inner)
        (fits.blocks block inside)
  · obtain ⟨link, inside, isNested⟩ := List.mem_flatMap.mp linked
    exact (fits.links link inside).utf8Length_lt isNested

end Mono

section Fits

variable {passage inner rest : Passage}

theorem utf8Length_lt_of_block? {opening closing : Char}
    (found : passage.block? opening closing = some (inner, rest)) :
    utf8Length inner.text < utf8Length passage.text := by
  obtain ⟨-, start, -, -, between, whole⟩ := leads_of_block? found
  have := opening.utf8Size_pos
  rw [whole, between, utf8Length_cons, utf8Length_append]
  omega

theorem utf8Length_lt_of_trailingBlock? (found : passage.trailingBlock? = some (inner, rest)) :
    utf8Length inner.text < utf8Length passage.text :=
  Nat.lt_of_lt_of_le (utf8Length_lt_of_block? found)
    (leads_skipWhile isInlineBlank passage).utf8Length_le

theorem utf8Length_lt_of_linkBlock {closure : Passage} (member : closure ∈ passage.linkBlock.1) :
    utf8Length closure.text < utf8Length passage.text := by
  unfold linkBlock at member
  split at member
  · next inner rest found =>
    cases member
    exact utf8Length_lt_of_trailingBlock? found
  · cases member

theorem utf8Length_lt_of_mem_blocks {block : Block} (member : block ∈ passage.blocks.1) :
    utf8Length block.inner.text < utf8Length passage.text := by
  rcases List.mem_append.mp member with first | other
  · unfold unlabeledBlock at first
    split at first
    · next inner rest found =>
      rw [List.mem_singleton.mp first]
      exact utf8Length_lt_of_trailingBlock? found
    · cases first
  · obtain ⟨start, rest, leads, found⟩ := exists_of_mem_repeatStep advances_labeledBlock? other
    obtain ⟨brace, toBrace, opened⟩ := exists_of_labeledBlock? found
    exact Nat.lt_of_lt_of_le (utf8Length_lt_of_block? opened)
      (((leads_unlabeledBlock passage).trans leads).trans toBrace).utf8Length_le

theorem fitsIn_of_linkAfterName? {line : Option Nat} {name : String} {link : ChainLink}
    (found : linkAfterName? line name passage = some (link, rest)) :
    link.FitsIn (utf8Length passage.text + 1) := by
  unfold linkAfterName? at found
  split at found
  · next inner written =>
    obtain ⟨⟨arguments, behind⟩, split, same⟩ := Option.map_eq_some_iff.mp found
    dsimp only at same
    split at same
    · cases same
      trivial
    · cases same
      have whole : passage.text = '(' :: (arguments ++ ')' :: behind) := by
        rw [written, (append_of_splitFirst? split).1]
      have toBehind : Leads passage (passage.moveTo behind) :=
        .moveTo ⟨'(' :: arguments ++ [')'], by rw [whole]; simp⟩
      constructor
      · rw [whole, utf8Length_cons, utf8Length_append]
        omega
      · intro closure member
        have := utf8Length_lt_of_linkBlock member
        have := toBehind.utf8Length_le
        omega
  · split at found
    · cases found
      constructor
      · exact Nat.succ_pos _
      · intro closure member
        have := utf8Length_lt_of_linkBlock member
        omega
    · cases found

theorem fitsIn_of_link? {link : ChainLink} (found : link? passage = some (link, rest)) :
    link.FitsIn (utf8Length passage.text) := by
  unfold link? at found
  dsimp only at found
  split at found
  · next text dot =>
    split at found
    · cases found
    · refine (fitsIn_of_linkAfterName? found).mono ?_
      have toDot : Leads passage passage.skipBlanks := leads_skipWhile isAsciiBlank passage
      calc utf8Length (text.dropWhile isWord) + 1
        _ ≤ utf8Length text + 1 :=
          Nat.succ_le_succ (utf8Length_le_of_isInfix (List.dropWhile_suffix isWord).isInfix)
        _ ≤ utf8Length passage.skipBlanks.text := by
          have := Char.utf8Size_pos '.'
          rw [dot, utf8Length_cons]
          omega
        _ ≤ utf8Length passage.text := toDot.utf8Length_le
  · cases found

/-- Everything that is nested in a scanned expression is shorter than what it was scanned from. -/
theorem fitsIn_of_scan? {scan : Scan} (found : passage.scan? = some (scan, rest)) :
    scan.FitsIn (utf8Length passage.text) := by
  unfold scan? at found
  simp only [Option.bind_eq_bind, Option.bind_eq_some_iff] at found
  obtain ⟨⟨name, afterName⟩, named, ⟨arguments, afterArguments⟩, argued, found⟩ := found
  split at found
  · cases found
    have toName : Leads passage (passage.moveTo afterName) :=
      .moveTo ⟨name, (append_of_splitIdentifier? named).symm⟩
    have toArguments := toName.trans (leads_of_callArguments? argued)
    refine ⟨fun text member ↦ ?_, fun block member ↦ ?_, fun link member ↦ ?_⟩
    · unfold callArguments? at argued
      split at argued
      · obtain ⟨⟨inner, after⟩, split, same⟩ := Option.map_eq_some_iff.mp argued
        cases same
        cases member
        exact Nat.lt_of_lt_of_le (utf8Length_lt_of_block? split) toName.utf8Length_le
      · cases argued
        cases member
    · exact Nat.lt_of_lt_of_le (utf8Length_lt_of_mem_blocks member) toArguments.utf8Length_le
    · obtain ⟨start, after, leads, linked⟩ := exists_of_mem_repeatStep advances_link? member
      exact (fitsIn_of_link? linked).mono
        ((toArguments.trans (leads_blocks afterArguments)).trans leads).utf8Length_le
  · cases found

end Fits

end ViewPreview.Passage
