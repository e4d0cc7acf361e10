import ViewPreview.Preview
import ViewPreview.Proofs.Call.Matching
import ViewPreview.Proofs.Passage.Scan

/-!
# Parentheses in the Arguments of a Modifier

The arguments of a modifier end at the first closing parenthesis.  A modifier is passed over where
an opening parenthesis stands before it, and it is passed over as a whole exactly when the
parentheses in its arguments match, those in string literals included.  Where the first parenthesis
is a closing one, as in a string literal that holds it alone, the modifier is read with the
arguments cut off there.
-/

namespace ViewPreview.Passage

open ViewPreview.Text ViewPreview.Call ViewPreview.Outline

variable {passage other inner after : Passage} {name : Word}
  {arguments front back rest blanks : List Char}

/-! ## Closures behind a modifier -/

/-- A block is a bracket, what matches inside it, and the bracket that closes it. -/
theorem matched_of_block? {opening closing : Char} (distinct : closing ≠ opening)
    (found : passage.block? opening closing = some (inner, after)) :
    passage.text = opening :: (inner.text ++ closing :: after.text) ∧
      Matched opening closing inner.text := by
  unfold block? at found
  split at found
  · cases found
  · next c text written =>
    split at found
    · next isOpening =>
      obtain ⟨⟨content, behind⟩, search, same⟩ := Option.map_eq_some_iff.mp found
      cases same
      have shape := append_of_splitClosing? search
      rw [shape] at search
      refine ⟨?_, (splitClosing?_eq_some_iff_matched distinct).mp search⟩
      rw [written, isOpening, shape]
      rfl
    · cases found

/-- Behind a modifier either nothing is passed over, or blanks and a block in braces. -/
theorem linkBlock_cases (passage : Passage) :
    passage.linkBlock.2 = passage ∨
      ∃ blanks inner, passage.text = blanks ++ '{' :: (inner ++ '}' :: passage.linkBlock.2.text) ∧
        (∀ c ∈ blanks, isInlineBlank c = true) ∧ Matched '{' '}' inner := by
  unfold linkBlock
  cases found : passage.trailingBlock? with
  | none => exact .inl rfl
  | some parts =>
    obtain ⟨shape, matched⟩ := matched_of_block? (by decide) found
    refine .inr ⟨passage.text.takeWhile isInlineBlank, parts.1.text, ?_,
      List.all_eq_true.mp List.all_takeWhile, matched⟩
    rw [← shape]
    exact List.takeWhile_append_dropWhile.symm

theorem length_linkBlock_le (passage : Passage) :
    passage.linkBlock.2.text.length ≤ passage.text.length := by
  rcases linkBlock_cases passage with same | ⟨blanks, inner, shape, -, -⟩
  · exact Nat.le_of_eq (congrArg (fun passage ↦ passage.text.length) same)
  · rw [shape]
    simp only [List.length_append, List.length_cons]
    omega

/-- Two calls that end at different places are not both followed by a closure up to the same
place. -/
theorem linkBlock_ne_of_append {between : List Char}
    (behind : passage.text = between ++ ')' :: other.text) :
    passage.linkBlock.2.text ≠ other.linkBlock.2.text := by
  intro same
  rcases linkBlock_cases passage with whole | ⟨blanks, inner, shape, blank, matched⟩
  · have bound := length_linkBlock_le other
    rw [← same, whole, behind, List.length_append, List.length_cons] at bound
    omega
  · rw [behind] at shape
    rcases linkBlock_cases other with whole | ⟨blanks', inner', shape', -, matched'⟩
    · -- A closure ends in a brace and a call in a parenthesis.
      rw [same, whole] at shape
      have ends : between ++ [')'] = (blanks ++ '{' :: inner) ++ ['}'] := by
        refine List.append_cancel_right (?_ : _ ++ other.text = _ ++ other.text)
        simpa using shape
      exact absurd (List.append_inj' ends rfl).2 (by decide)
    · -- The later closure would be a part of the earlier one and end with it.
      rw [same, shape'] at shape
      have ends : between ++ ')' :: (blanks' ++ '{' :: inner') = blanks ++ '{' :: inner := by
        refine List.append_cancel_right (?_ : _ ++ '}' :: other.linkBlock.2.text = _)
        simpa using shape
      rcases List.append_eq_append_iff.mp ends with ⟨more, rfl, starts⟩ | ⟨more, rfl, starts⟩
      · cases more with
        | nil => exact absurd (List.cons.inj starts).1 (by decide)
        | cons c more =>
          obtain ⟨rfl, -⟩ := List.cons.inj starts
          exact absurd (blank ')' (by simp)) (by decide)
      · cases more with
        | nil => exact absurd (List.cons.inj starts).1 (by decide)
        | cons c more =>
          have written : inner = (more ++ ')' :: blanks') ++ '{' :: inner' := by
            simpa using (List.cons.inj starts).2
          have covered := matched.covered (more ++ ')' :: blanks')
            (written ▸ List.prefix_append _ _)
          generalize more ++ ')' :: blanks' = outer at written covered
          have settled := matched.settled
          rw [written, List.count_append, List.count_append, List.count_cons_self,
            List.count_cons_of_ne (by decide), matched'.settled] at settled
          omega

/-! ## Calls of a modifier -/

/-- A call in parentheses is passed over as a whole, with the closure behind it, exactly when the
parentheses in its arguments match. -/
theorem skipCall_linkBlock_iff (start : Nat) :
    (skipCall ⟨some start, '(' :: (arguments ++ ')' :: rest)⟩).linkBlock.2 =
        (linkBlock ⟨some (start + lineFeeds arguments), rest⟩).2 ↔
      Matched '(' ')' arguments := by
  constructor
  · intro same
    have ends := congrArg Passage.text same
    unfold skipCall at ends
    cases found : block? '(' ')' ⟨some start, '(' :: (arguments ++ ')' :: rest)⟩ with
    | none =>
      -- A call that is never closed is not passed over at all.
      rw [found] at ends
      have noBlock : NoBlock ('(' :: (arguments ++ ')' :: rest)) := by
        intro brace
        exact absurd (Option.some.inj brace) (by decide)
      have bound := length_linkBlock_le ⟨some (start + lineFeeds arguments), rest⟩
      rw [← ends, linkBlock, trailingBlock?_eq_none noBlock] at bound
      simp only [List.length_cons, List.length_append] at bound
      omega
    | some parts =>
      obtain ⟨inner, after⟩ := parts
      rw [found] at ends
      obtain ⟨shape, matched⟩ := matched_of_block? (by decide) found
      have written : arguments ++ ')' :: rest = inner.text ++ ')' :: after.text :=
        (List.cons.inj shape).2
      rcases List.append_eq_append_iff.mp written with ⟨more, early, late⟩ | ⟨more, early, late⟩
      · cases more with
        | nil =>
          rw [List.append_nil] at early
          exact early ▸ matched
        | cons c more =>
          obtain ⟨rfl, behind⟩ := List.cons.inj late
          exact absurd ends.symm (linkBlock_ne_of_append behind)
      · cases more with
        | nil =>
          rw [List.append_nil] at early
          exact early ▸ matched
        | cons c more =>
          obtain ⟨rfl, behind⟩ := List.cons.inj late
          exact absurd ends (linkBlock_ne_of_append behind)
  · intro matched
    have balanced := (balanced_iff_matched (by decide)).mpr matched
    rw [skipCall, block?_eq (by decide) (by decide) balanced]

/-- A modifier is passed over when an opening parenthesis stands before the first closing one. -/
theorem linkAfterName?_of_opening {line start : Option Nat} {name : String}
    (flat : ')' ∉ front) :
    linkAfterName? start name ⟨line, '(' :: (front ++ '(' :: back ++ ')' :: rest)⟩ =
      some (.unread start name,
        (skipCall ⟨line, '(' :: (front ++ '(' :: back ++ ')' :: rest)⟩).linkBlock.2) := by
  obtain ⟨before, behind, splits⟩ := exists_splitFirst?_append
    (List.mem_append_right (front ++ '(' :: back) (List.mem_singleton_self ')'))
  have split := splits rest
  rw [List.append_assoc, List.singleton_append] at split
  obtain ⟨shape, absent⟩ := append_of_splitFirst? split
  refine linkAfterName?_of_nested split (List.contains_iff_mem.mpr ?_)
  rw [List.append_assoc, List.cons_append] at shape
  rcases List.append_eq_append_iff.mp shape with ⟨more, rfl, starts⟩ | ⟨more, rfl, starts⟩
  · cases more with
    | nil => exact absurd (List.cons.inj starts).1 (by decide)
    | cons c more => exact absurd ((List.cons.inj starts).1 ▸ by simp) flat
  · cases more with
    | nil => exact absurd (List.cons.inj starts).1 (by decide)
    | cons c more =>
      obtain ⟨rfl, -⟩ := List.cons.inj starts
      exact List.mem_append_right front List.mem_cons_self

/-- A modifier whose arguments hold a closing parenthesis before any opening one is read with the
arguments before that parenthesis. -/
theorem linkAfterName?_of_closing {start : Option Nat} {name : String} {place : Nat}
    (flat : '(' ∉ front ∧ ')' ∉ front) :
    linkAfterName? start name ⟨some place, '(' :: (front ++ ')' :: back ++ ')' :: rest)⟩ =
      some (.call start name front
          (linkBlock ⟨some (place + lineFeeds front), back ++ ')' :: rest⟩).1,
        (linkBlock ⟨some (place + lineFeeds front), back ++ ')' :: rest⟩).2) := by
  rw [List.append_assoc, List.cons_append]
  exact linkAfterName?_of_flat flat.2 (fun member ↦ flat.1 (List.contains_iff_mem.mp member)) rfl

/-- The first parenthesis of a text is an opening or a closing one. -/
theorem exists_first_parenthesis (nested : '(' ∈ arguments ∨ ')' ∈ arguments) :
    ∃ front back, '(' ∉ front ∧ ')' ∉ front ∧
      (arguments = front ++ '(' :: back ∨ arguments = front ++ ')' :: back) := by
  by_cases closes : ')' ∈ arguments
  · obtain ⟨front, back, rfl, noClosing⟩ := List.eq_append_cons_of_mem closes
    by_cases opens : '(' ∈ front
    · obtain ⟨first, second, rfl, noOpening⟩ := List.eq_append_cons_of_mem opens
      refine ⟨first, second ++ ')' :: back, noOpening, ?_, .inl (by simp)⟩
      exact fun member ↦ noClosing (List.mem_append_left _ member)
    · exact ⟨front, back, opens, noClosing, .inr rfl⟩
  · obtain ⟨front, back, rfl, noOpening⟩ := List.eq_append_cons_of_mem (nested.resolve_right closes)
    refine ⟨front, back, noOpening, ?_, .inl rfl⟩
    exact fun member ↦ closes (List.mem_append_left _ member)

/-- Parentheses do not match where the first one is a closing one. -/
theorem not_matched_of_closing (noOpening : '(' ∉ front) :
    ¬Matched '(' ')' (front ++ ')' :: back) := by
  intro matched
  have covered := matched.covered (front ++ [')']) (by simp)
  rw [List.count_append, List.count_append, List.count_eq_zero.mpr noOpening] at covered
  simp at covered

/-- A modifier with the arguments of its call, behind blanks. -/
def modifierAt (line : Nat) (blanks : List Char) (name : Word) (arguments rest : List Char) :
    Passage :=
  ⟨some line, blanks ++ '.' :: (name.chars ++ '(' :: (arguments ++ ')' :: rest))⟩

/-- A modifier whose arguments hold a parenthesis.  It is passed over as a whole, so that reading
goes on behind its call and the closure of the call, exactly when the parentheses in its arguments
match, those in string literals included; they do where brackets are nested properly outside of
literals and the parentheses in each literal match.  A modifier that is passed over adds nothing to
a view but a caveat on its line.  It is passed over, if not as a whole, whenever the first
parenthesis is an opening one; when the first is a closing one, the modifier is read with the
arguments before it, and reading goes on behind it. -/
theorem link?_modifierAt (nested : '(' ∈ arguments ∨ ')' ∈ arguments)
    (blank : ∀ c ∈ blanks, isAsciiBlank c = true) (line : Nat) (name : Word) (rest : List Char) :
    (link? (modifierAt line blanks name arguments rest) =
        some (.unread (some (line + lineFeeds blanks)) name.string,
          (linkBlock ⟨some (line + lineFeeds blanks + lineFeeds arguments), rest⟩).2) ↔
      Matched '(' ')' arguments) ∧
    (Bracketed (Matched '(' ')') arguments → Matched '(' ')' arguments) ∧
    (∀ base : Reading View,
      followLink base (.unread (some (line + lineFeeds blanks)) name.string) =
        ⟨base.value,
          base.caveats ++ [⟨some (line + lineFeeds blanks), .unreadModifier name.string⟩]⟩) ∧
    (∀ front back, arguments = front ++ '(' :: back → ')' ∉ front →
      ∃ after, link? (modifierAt line blanks name arguments rest) =
        some (.unread (some (line + lineFeeds blanks)) name.string, after)) ∧
    (∀ front back, arguments = front ++ ')' :: back → '(' ∉ front ∧ ')' ∉ front →
      link? (modifierAt line blanks name arguments rest) =
        some (.call (some (line + lineFeeds blanks)) name.string front
            (linkBlock ⟨some (line + lineFeeds blanks + lineFeeds front), back ++ ')' :: rest⟩).1,
          (linkBlock
            ⟨some (line + lineFeeds blanks + lineFeeds front), back ++ ')' :: rest⟩).2)) := by
  have called := link?_called blank name line (arguments ++ ')' :: rest)
  refine ⟨?whole, Bracketed.matched, fun base ↦ ?caveat, ?opening, ?closing⟩
  case whole =>
    obtain ⟨front, back, noOpening, noClosing, rfl | rfl⟩ := exists_first_parenthesis nested
    · rw [modifierAt, called, linkAfterName?_of_opening noClosing, Option.some.injEq,
        Prod.mk.injEq]
      exact (and_iff_right rfl).trans (skipCall_linkBlock_iff _)
    · rw [modifierAt, called, linkAfterName?_of_closing ⟨noOpening, noClosing⟩]
      refine iff_of_false (fun same ↦ ?_) (not_matched_of_closing noOpening)
      cases congrArg Prod.fst (Option.some.inj same)
  case caveat => rw [followLink]; rfl
  case opening =>
    rintro front back rfl noClosing
    exact ⟨_, called.trans (linkAfterName?_of_opening noClosing)⟩
  case closing =>
    rintro front back rfl flat
    exact called.trans (linkAfterName?_of_closing flat)

/-- A string literal with a closing parenthesis in it, as the argument of a modifier. -/
def doneLiteral : List Char :=
  "\"Done :)\"".toList

/-- The name of a modifier with a text. -/
def helpName : Word :=
  ⟨"help".toList, by decide, List.all_eq_true.mp (by decide)⟩

theorem link?_modifierAt_doneLiteral :
    ')' ∈ doneLiteral ∧
      link? (modifierAt 1 [] helpName doneLiteral ".bold()".toList) =
        some (.call (some 1) "help" "\"Done :".toList none, ⟨some 1, "\").bold()".toList⟩) := by
  have nested : ')' ∈ doneLiteral := by decide
  have noBlanks : ∀ c ∈ ([] : List Char), isAsciiBlank c = true := fun _ member ↦
    absurd member List.not_mem_nil
  have parts := link?_modifierAt (.inr nested) noBlanks 1 helpName ".bold()".toList
  have read := parts.2.2.2.2 "\"Done :".toList "\"".toList (by decide) (by decide)
  exact ⟨nested, read⟩

/-- A text with a modifier whose argument holds a closing parenthesis in a literal, and another
modifier behind it. -/
def helpedText : String :=
  "struct A: View \x7b var body: some View \x7b Text(\"a\").help(\"Done :)\").bold() \x7d \x7d"

/-- The modifiers of a view with their texts. -/
def modifierTexts (view : View) : List (String × Option String) :=
  view.modifiers.map fun modifier ↦
    (modifier.name, match modifier.arguments with
      | .text text => some text
      | _ => none)

/-- A modifier is read with the beginning of a string literal as its argument, and the modifier
behind it is lost, without any message. -/
theorem helpedText_misread :
    Bracketed (fun _ ↦ True) doneLiteral ∧ (Preview.ofSource .fallback helpedText).messages = [] ∧
      (Preview.ofSource .fallback helpedText).root.map modifierTexts =
        some [("help", some "\"Done :")] := by
  have whole : quotedContent? ("Done :)".toList ++ ['"']) = some "Done :)".toList := by decide
  exact ⟨.quoted whole trivial .nil, by decide +kernel⟩

end ViewPreview.Passage
