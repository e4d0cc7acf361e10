import ViewPreview.Text.Comment

/-!
# Texts Without Comments

A text in which no comment begins is left as it is when comments are removed.  Whether a comment
begins depends on the quotes before it on its line, so a passage of a text is called commentless
when it may stand anywhere outside strings: no comment begins in it, and the text behind it is again
outside strings.
-/

namespace ViewPreview.Text

/-- Whether no comment begins in a text.  The flag tells whether an odd number of quotes comes
before it on its line. -/
def isCommentFree : (quoted : Bool) → List Char → Bool
  | _, [] => true
  | _, '\n' :: text => isCommentFree false text
  | false, '/' :: '/' :: _ => false
  | quoted, c :: text => isCommentFree (if c = '"' then !quoted else quoted) text

/-- What a line is written as. -/
def Line.written (line : Line) : List Char :=
  line.body ++ line.terminator

/-! ## Lines -/

/-- The lines of a text are all of it. -/
theorem flatMap_written_lines (text : List Char) : (lines text).flatMap Line.written = text := by
  fun_induction lines text with
  | case1 => rfl
  | case2 text ih =>
    rw [List.flatMap_cons, ih]
    rfl
  | case3 text ih =>
    rw [List.flatMap_cons, ih]
    rfl
  | case4 c text _ _ empty ih =>
    rw [empty] at ih
    rw [← ih]
    rfl
  | case5 c text _ _ line others split ih =>
    calc
      _ = c :: (line :: others).flatMap Line.written := rfl
      _ = c :: text := by rw [← split, ih]

theorem head_of_lines {text : List Char} {line : Line} {others : List Line} {c : Char}
    (split : lines text = line :: others) (first : line.body.head? = some c) :
    text.head? = some c := by
  have whole := flatMap_written_lines text
  obtain ⟨body, terminator⟩ := line
  cases body with
  | nil => cases first
  | cons d body =>
    rw [split] at whole
    rw [← whole]
    exact first

/-! ## Removing comments from a text without any -/

theorem beforeComment_cons {quoted : Bool} {c : Char} {text : List Char}
    (noComment : ¬(quoted = false ∧ c = '/' ∧ text.head? = some '/')) :
    beforeComment quoted (c :: text) =
      c :: beforeComment (if c = '"' then !quoted else quoted) text := by
  rw [beforeComment.eq_def]
  split
  · next heq => cases heq
  · next heq =>
    cases heq
    exact absurd ⟨rfl, rfl, rfl⟩ noComment
  · next heq =>
    cases heq
    rfl

theorem isCommentFree_cons {quoted : Bool} {c : Char} {text : List Char}
    (free : isCommentFree quoted (c :: text) = true) (sameLine : c ≠ '\n') :
    ¬(quoted = false ∧ c = '/' ∧ text.head? = some '/') ∧
      isCommentFree (if c = '"' then !quoted else quoted) text = true := by
  rw [isCommentFree.eq_def] at free
  split at free
  · next heq => cases heq
  · next heq =>
    cases heq
    exact absurd rfl sameLine
  · cases free
  · next notSlashes heq =>
    cases heq
    refine ⟨?_, free⟩
    rintro ⟨rfl, rfl, slash⟩
    cases text with
    | nil => cases slash
    | cons d text =>
      cases slash
      exact notSlashes text rfl rfl rfl

/-- No line of a text in which no comment begins has a comment.  Its first line goes on behind the
quotes that the flag counts. -/
theorem beforeComment_lines {quoted : Bool} {text : List Char}
    (free : isCommentFree quoted text = true) :
    (∀ line ∈ (lines text).head?, beforeComment quoted line.body = line.body) ∧
      ∀ line ∈ (lines text).tail, beforeComment false line.body = line.body := by
  have all {lines : List Line}
      (both : (∀ line ∈ lines.head?, beforeComment false line.body = line.body) ∧
        ∀ line ∈ lines.tail, beforeComment false line.body = line.body) :
      ∀ line ∈ lines, beforeComment false line.body = line.body := by
    cases lines with
    | nil => exact both.2
    | cons line others => exact List.forall_mem_cons.mpr ⟨both.1 line rfl, both.2⟩
  fun_induction lines text generalizing quoted with
  | case1 =>
    constructor
    · rintro line ⟨⟩
    · rintro line ⟨⟩
  | case2 text ih =>
    rw [isCommentFree.eq_def] at free
    refine ⟨?_, all (ih free)⟩
    rintro line ⟨⟩
    rw [beforeComment]
  | case3 text ih =>
    have behind := (isCommentFree_cons free (by decide)).2
    rw [isCommentFree.eq_def] at behind
    refine ⟨?_, all (ih behind)⟩
    rintro line ⟨⟩
    rw [beforeComment]
  | case4 c text notBreak _ empty ih =>
    constructor
    · rintro line ⟨⟩
      have single : ¬(quoted = false ∧ c = '/' ∧ ([] : List Char).head? = some '/') := by
        rintro ⟨-, -, ⟨⟩⟩
      rw [beforeComment_cons single, beforeComment]
    · rintro line ⟨⟩
  | case5 c text notBreak _ line others split ih =>
    obtain ⟨noComment, behind⟩ := isCommentFree_cons free notBreak
    obtain ⟨first, later⟩ := ih behind
    rw [split] at first later
    refine ⟨?_, later⟩
    rintro line' ⟨⟩
    rw [beforeComment_cons fun comment ↦
      noComment ⟨comment.1, comment.2.1, head_of_lines split comment.2.2⟩]
    rw [first line rfl]

/-- A text in which no comment begins is left as it is. -/
theorem stripComments_eq_self {text : List Char} (free : isCommentFree false text = true) :
    stripComments text = text := by
  obtain ⟨first, later⟩ := beforeComment_lines free
  have kept : ∀ line ∈ lines text,
      beforeComment false line.body ++ line.terminator = line.written := by
    intro line member
    unfold Line.written
    cases split : lines text with
    | nil =>
      rw [split] at member
      cases member
    | cons head tail =>
      rw [split] at member first later
      rcases List.mem_cons.mp member with rfl | behind
      · rw [first line rfl]
      · rw [later line behind]
  unfold stripComments
  rw [List.flatMap_def, List.map_congr_left kept, ← List.flatMap_def]
  exact flatMap_written_lines text

/-! ## Passages without comments -/

/-- Whether a passage may stand outside strings without changing where comments begin. -/
def Commentless (passage : List Char) : Prop :=
  ∀ rest, isCommentFree false (passage ++ rest) = isCommentFree false rest

theorem commentless_nil : Commentless [] := by
  intro rest
  rfl

theorem Commentless.append {first second : List Char} (front : Commentless first)
    (back : Commentless second) : Commentless (first ++ second) := by
  intro rest
  rw [List.append_assoc, front, back]

/-- A character that is neither a slash nor a quote changes nothing. -/
theorem commentless_singleton {c : Char} (noSlash : c ≠ '/') (noQuote : c ≠ '"') :
    Commentless [c] := by
  intro rest
  by_cases sameLine : c = '\n'
  · rw [sameLine, List.singleton_append, isCommentFree]
  · rw [List.singleton_append, isCommentFree, if_neg noQuote]
    · exact sameLine
    · intro text _ slash
      exact absurd slash noSlash

theorem commentless_of_forall {passage : List Char} (all : ∀ c ∈ passage, c ≠ '/' ∧ c ≠ '"') :
    Commentless passage := by
  induction passage with
  | nil => exact commentless_nil
  | cons c passage ih =>
    obtain ⟨⟨noSlash, noQuote⟩, others⟩ := List.forall_mem_cons.mp all
    exact (commentless_singleton noSlash noQuote).append (ih others)

theorem commentless_of_all {passage : List Char}
    (plain : (passage.all fun c ↦ c != '/' && c != '"') = true) : Commentless passage := by
  apply commentless_of_forall
  intro c member
  simpa using List.all_eq_true.mp plain c member

theorem isCommentFree_true_append {content rest : List Char}
    (plain : ∀ c ∈ content, c ≠ '\n' ∧ c ≠ '"') :
    isCommentFree true (content ++ rest) = isCommentFree true rest := by
  induction content with
  | nil => rfl
  | cons c content ih =>
    obtain ⟨⟨sameLine, noQuote⟩, others⟩ := List.forall_mem_cons.mp plain
    rw [List.cons_append, isCommentFree, if_neg noQuote]
    · exact ih others
    · exact sameLine
    · intro text quoted
      cases quoted

theorem isCommentFree_quote (quoted : Bool) (rest : List Char) :
    isCommentFree quoted ('"' :: rest) = isCommentFree (!quoted) rest := by
  rw [isCommentFree, if_pos rfl]
  · intro newline
    exact absurd newline (by decide)
  · intro text _ slash
    exact absurd slash (by decide)

/-- A string on one line may hold any slashes. -/
theorem commentless_quoted {content : List Char} (plain : ∀ c ∈ content, c ≠ '\n' ∧ c ≠ '"') :
    Commentless ('"' :: (content ++ ['"'])) := by
  intro rest
  rw [List.cons_append, List.append_assoc, isCommentFree_quote, Bool.not_false,
    isCommentFree_true_append plain, List.singleton_append, isCommentFree_quote, Bool.not_true]

end ViewPreview.Text
