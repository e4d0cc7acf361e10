import Mathlib.Data.List.Forall2
import ViewPreview.Proofs.Text.Comment
import ViewPreview.Proofs.Text.Span
import ViewPreview.Proofs.Text.Utf8

/-!
# Stripped Texts

Comments are removed from each line by itself.  A line is cut where its first comment begins and
keeps what ends it, so a stripped text has as many line breaks as the text it comes from, and every
character that is left stands on the line it stood on before.  No comment begins in a stripped text,
also not where a cut has brought a slash, a quote or a carriage return next to the end of its line.
-/

namespace ViewPreview.Text

/-! ## Cut lines -/

/-- Whether a comment begins in a line behind a part of it: at two slashes with an even number of
quotes before them.  The flag counts one more quote. -/
def CommentBehind (quoted : Bool) (body before : List Char) : Prop :=
  (quoted.toNat + before.count '"') % 2 = 0 ∧ before ++ ['/', '/'] <+: body

/-- What is left of a line: what stands before its first comment, or all of it if there is none. -/
inductive IsCut (quoted : Bool) (body : List Char) : List Char → Prop
  | comment {before : List Char} (begins : CommentBehind quoted body before)
      (first : ∀ earlier, CommentBehind quoted body earlier → before.length ≤ earlier.length) :
      IsCut quoted body before
  | whole (none : ∀ before, ¬CommentBehind quoted body before) : IsCut quoted body body

theorem not_commentBehind_nil (quoted : Bool) (before : List Char) :
    ¬CommentBehind quoted [] before := by
  rintro ⟨-, slashes⟩
  have nothing := List.prefix_nil.mp slashes
  exact List.append_ne_nil_of_right_ne_nil before (by decide) nothing

/-- Behind a first character there is a comment where there is one in the rest, which goes on behind
one more quote if the character is a quote. -/
theorem commentBehind_cons_iff {quoted : Bool} {c : Char} {text before : List Char} :
    CommentBehind quoted (c :: text) (c :: before) ↔
      CommentBehind (if c = '"' then !quoted else quoted) text before := by
  unfold CommentBehind
  rw [List.cons_append, List.cons_prefix_cons, and_iff_right rfl, List.count_cons]
  refine and_congr_left fun _ ↦ ?_
  by_cases quote : c = '"'
  · rw [if_pos quote, quote, if_pos (by decide)]
    cases quoted
    · simp only [Bool.toNat_false, Bool.not_false, Bool.toNat_true]
      omega
    · simp only [Bool.toNat_false, Bool.not_true, Bool.toNat_true]
      omega
  · rw [if_neg quote, if_neg (by simpa using quote), Nat.add_zero]

theorem commentBehind_nil_iff {quoted : Bool} {c : Char} {text : List Char} :
    CommentBehind quoted (c :: text) [] ↔ quoted = false ∧ c = '/' ∧ text.head? = some '/' := by
  unfold CommentBehind
  rw [List.nil_append, List.cons_prefix_cons, List.count_nil, Nat.add_zero]
  refine and_congr ?_ (and_congr eq_comm ?_)
  · cases quoted
    · decide
    · decide
  · cases text with
    | nil => simp
    | cons d text => simp [List.cons_prefix_cons, eq_comm]

theorem commentBehind_of_cons {quoted : Bool} {c : Char} {text before : List Char}
    (noComment : ¬(quoted = false ∧ c = '/' ∧ text.head? = some '/'))
    (begins : CommentBehind quoted (c :: text) before) :
    ∃ others, before = c :: others ∧
      CommentBehind (if c = '"' then !quoted else quoted) text others := by
  cases before with
  | nil => exact absurd (commentBehind_nil_iff.mp begins) noComment
  | cons d others =>
    obtain ⟨rfl, -⟩ := List.cons_prefix_cons.mp begins.2
    exact ⟨others, rfl, commentBehind_cons_iff.mp begins⟩

theorem IsCut.cons {quoted : Bool} {c : Char} {text kept : List Char}
    (noComment : ¬(quoted = false ∧ c = '/' ∧ text.head? = some '/'))
    (cut : IsCut (if c = '"' then !quoted else quoted) text kept) :
    IsCut quoted (c :: text) (c :: kept) := by
  cases cut with
  | comment begins first =>
    refine .comment (commentBehind_cons_iff.mpr begins) fun earlier found ↦ ?_
    obtain ⟨others, rfl, behind⟩ := commentBehind_of_cons noComment found
    exact Nat.succ_le_succ (first others behind)
  | whole none =>
    refine .whole fun before found ↦ ?_
    obtain ⟨others, -, behind⟩ := commentBehind_of_cons noComment found
    exact none others behind

theorem beforeComment_of_comment {quoted : Bool} {c : Char} {text : List Char}
    (comment : quoted = false ∧ c = '/' ∧ text.head? = some '/') :
    beforeComment quoted (c :: text) = [] := by
  obtain ⟨rfl, rfl, slash⟩ := comment
  obtain ⟨others, rfl⟩ := List.head?_eq_some_iff.mp slash
  rfl

/-- Lines are cut where their first comment begins. -/
theorem isCut_beforeComment (quoted : Bool) (body : List Char) :
    IsCut quoted body (beforeComment quoted body) := by
  induction body generalizing quoted with
  | nil => exact .whole (not_commentBehind_nil quoted)
  | cons c text ih =>
    by_cases comment : quoted = false ∧ c = '/' ∧ text.head? = some '/'
    · rw [beforeComment_of_comment comment]
      exact .comment (commentBehind_nil_iff.mpr comment) fun _ _ ↦ Nat.zero_le _
    · rw [beforeComment_cons comment]
      exact .cons comment (ih _)

theorem IsCut.isPrefix {quoted : Bool} {body kept : List Char} (cut : IsCut quoted body kept) :
    kept <+: body := by
  cases cut with
  | comment begins _ => exact (List.prefix_append kept _).trans begins.2
  | whole _ => exact List.prefix_rfl

/-- A line without its comment. -/
def Line.cut (line : Line) : Line :=
  { line with body := beforeComment false line.body }

theorem stripComments_eq (text : List Char) :
    stripComments text = ((lines text).map Line.cut).flatMap Line.written := by
  rw [stripComments, List.flatMap_map]
  rfl

/-! ## Texts as lines -/

/-- Lines that follow one another in a text: line feeds stand only where a line ends, and only the
last line may end without one. -/
inductive AreLines : List Line → Prop
  | nil : AreLines []
  | last {body : List Char} (oneLine : '\n' ∉ body) : AreLines [⟨body, []⟩]
  | cons {line : Line} {others : List Line} (oneLine : '\n' ∉ line.body)
      (ended : line.terminator = ['\n'] ∨ line.terminator = ['\r', '\n'])
      (areLines : AreLines others) : AreLines (line :: others)

theorem areLines_lines (text : List Char) : AreLines (lines text) := by
  fun_induction lines text with
  | case1 => exact .nil
  | case2 text ih => exact .cons List.not_mem_nil (.inl rfl) ih
  | case3 text ih => exact .cons List.not_mem_nil (.inr rfl) ih
  | case4 c text notBreak _ _ _ =>
    exact .last fun inside ↦ notBreak (List.mem_singleton.mp inside).symm
  | case5 c text notBreak _ line others split ih =>
    rw [split] at ih
    have outside {body : List Char} (oneLine : '\n' ∉ body) : '\n' ∉ c :: body := by
      intro inside
      rcases List.mem_cons.mp inside with first | behind
      · exact notBreak first.symm
      · exact oneLine behind
    cases ih with
    | last oneLine => exact .last (outside oneLine)
    | cons oneLine ended areLines => exact .cons (outside oneLine) ended areLines

theorem AreLines.map_cut {lines : List Line} (areLines : AreLines lines) :
    AreLines (lines.map Line.cut) := by
  induction areLines with
  | nil => exact .nil
  | last oneLine =>
    exact .last fun inside ↦ oneLine ((isCut_beforeComment _ _).isPrefix.mem inside)
  | cons oneLine ended _ ih =>
    exact .cons (fun inside ↦ oneLine ((isCut_beforeComment _ _).isPrefix.mem inside)) ended ih

/-- A line that a line feed ends is written as a text without line feeds and a line feed. -/
theorem exists_written_eq {line : Line} (oneLine : '\n' ∉ line.body)
    (ended : line.terminator = ['\n'] ∨ line.terminator = ['\r', '\n']) :
    ∃ front, '\n' ∉ front ∧ line.written = front ++ ['\n'] := by
  unfold Line.written
  rcases ended with single | double
  · exact ⟨line.body, oneLine, by rw [single]⟩
  · refine ⟨line.body ++ ['\r'], ?_, by rw [double, List.append_assoc]; rfl⟩
    intro inside
    rcases List.mem_append.mp inside with before | return_
    · exact oneLine before
    · exact absurd return_ (by decide)

/-- A line ends at the first line feed. -/
theorem written_lines_newline {front : List Char} (noBreak : '\n' ∉ front) (rest : List Char) :
    (lines (front ++ '\n' :: rest)).map Line.written =
      (front ++ ['\n']) :: (lines rest).map Line.written := by
  induction front with
  | nil =>
    rw [List.nil_append, lines, List.map_cons]
    rfl
  | cons c front ih =>
    rw [List.mem_cons, not_or] at noBreak
    obtain ⟨notBreak, others⟩ := noBreak
    by_cases joined : c = '\r' ∧ front = []
    · obtain ⟨rfl, rfl⟩ := joined
      rw [List.cons_append, List.nil_append, lines, List.map_cons]
      rfl
    · have apart : ∀ text, c = '\r' → front ++ '\n' :: rest = '\n' :: text → False := by
        intro text carriageReturn shape
        cases front with
        | nil => exact joined ⟨carriageReturn, rfl⟩
        | cons d front =>
          obtain ⟨rfl, -⟩ := List.cons.inj shape
          exact others List.mem_cons_self
      have behind := ih others
      cases split : lines (front ++ '\n' :: rest) with
      | nil =>
        rw [split] at behind
        cases behind
      | cons line following =>
        rw [split, List.map_cons] at behind
        obtain ⟨first, later⟩ := List.cons.inj behind
        rw [List.cons_append, lines, split, List.map_cons, List.cons_append, ← first, later]
        · rfl
        · exact fun same ↦ notBreak same.symm
        · exact apart

/-- A text without line feeds is one line. -/
theorem lines_of_not_mem {text : List Char} (oneLine : '\n' ∉ text) (nonempty : text ≠ []) :
    lines text = [⟨text, []⟩] := by
  have areLines := areLines_lines text
  have whole := flatMap_written_lines text
  generalize lines text = parts at areLines whole ⊢
  cases areLines with
  | nil => exact absurd whole.symm nonempty
  | last _ =>
    rw [List.flatMap_singleton, Line.written, List.append_nil] at whole
    exact congrArg (fun body ↦ [(⟨body, []⟩ : Line)]) whole
  | cons inner ended _ =>
    obtain ⟨front, -, written⟩ := exists_written_eq inner ended
    rw [List.flatMap_cons, written, List.append_assoc] at whole
    rw [← whole] at oneLine
    exact absurd (List.mem_append_right _ List.mem_cons_self) oneLine

/-- A text without line feeds is one line, or none if it is empty. -/
theorem written_lines_of_not_mem {text : List Char} (oneLine : '\n' ∉ text) :
    (lines text).map Line.written = [text].filter (· ≠ []) := by
  cases text with
  | nil => rfl
  | cons c text =>
    rw [lines_of_not_mem oneLine (List.cons_ne_nil c text), List.map_singleton, Line.written,
      List.append_nil]
    rfl

/-- Lines that are written one after another are the lines of what is written.  Only a last line
without anything in it is lost. -/
theorem AreLines.written_lines {kept : List Line} (areLines : AreLines kept) :
    (lines (kept.flatMap Line.written)).map Line.written =
      (kept.map Line.written).filter (· ≠ []) := by
  induction areLines with
  | nil => rfl
  | last oneLine =>
    rw [List.flatMap_singleton, List.map_singleton]
    exact written_lines_of_not_mem (by simpa [Line.written] using oneLine)
  | @cons line others oneLine ended _ ih =>
    obtain ⟨front, noBreak, written⟩ := exists_written_eq oneLine ended
    rw [List.flatMap_cons, List.map_cons, List.filter_cons, written, List.append_assoc,
      List.singleton_append, written_lines_newline noBreak, ih, if_pos (by simp)]

/-! ## Line breaks -/

theorem lineFeeds_flatMap_written_map_cut {kept : List Line} (areLines : AreLines kept) :
    lineFeeds ((kept.map Line.cut).flatMap Line.written) = lineFeeds (kept.flatMap Line.written) := by
  have unbroken {body : List Char} (oneLine : '\n' ∉ body) :
      lineFeeds (beforeComment false body) = lineFeeds body := by
    rw [lineFeeds_eq_zero oneLine, lineFeeds_eq_zero]
    exact fun inside ↦ oneLine ((isCut_beforeComment _ _).isPrefix.mem inside)
  induction areLines with
  | nil => rfl
  | last oneLine =>
    rw [List.map_singleton, List.flatMap_singleton, List.flatMap_singleton, Line.written,
      Line.written, lineFeeds_append, lineFeeds_append, Line.cut, unbroken oneLine]
  | cons oneLine _ _ ih =>
    rw [List.map_cons, List.flatMap_cons, List.flatMap_cons, lineFeeds_append, lineFeeds_append, ih,
      Line.written, Line.written, lineFeeds_append, lineFeeds_append, Line.cut, unbroken oneLine]

/-- Removing comments keeps the line breaks. -/
theorem lineFeeds_stripComments (text : List Char) :
    lineFeeds (stripComments text) = lineFeeds text := by
  rw [stripComments_eq, lineFeeds_flatMap_written_map_cut (areLines_lines text),
    flatMap_written_lines]

/-! ## Stripping again -/

theorem isCommentFree_cons_of_ne_slash {quoted : Bool} {c : Char} {text : List Char}
    (sameLine : c ≠ '\n') (noSlash : c ≠ '/') :
    isCommentFree quoted (c :: text) = isCommentFree (if c = '"' then !quoted else quoted) text := by
  rw [isCommentFree]
  · exact sameLine
  · exact fun _ _ slash ↦ absurd slash noSlash

/-- What is left of a line starts with a slash only if the line does. -/
theorem head?_of_beforeComment_append {quoted : Bool} {body tail : List Char}
    (noSlash : tail.head? ≠ some '/')
    (slash : (beforeComment quoted body ++ tail).head? = some '/') : body.head? = some '/' := by
  cases body with
  | nil => exact absurd slash noSlash
  | cons c text =>
    by_cases comment : quoted = false ∧ c = '/' ∧ text.head? = some '/'
    · rw [comment.2.1]
      rfl
    · rw [beforeComment_cons comment] at slash
      exact slash

/-- No comment begins in what is left of a line, whatever but a slash follows it. -/
theorem isCommentFree_beforeComment_append {quoted : Bool} {body tail : List Char}
    (oneLine : '\n' ∉ body) (noSlash : tail.head? ≠ some '/')
    (free : ∀ quoted, isCommentFree quoted tail = true) :
    isCommentFree quoted (beforeComment quoted body ++ tail) = true := by
  induction body generalizing quoted with
  | nil =>
    rw [beforeComment]
    exact free quoted
  | cons c body ih =>
    rw [List.mem_cons, not_or] at oneLine
    by_cases comment : quoted = false ∧ c = '/' ∧ body.head? = some '/'
    · rw [beforeComment_of_comment comment]
      exact free quoted
    · rw [beforeComment_cons comment, List.cons_append, isCommentFree]
      · exact ih oneLine.2
      · exact fun same ↦ oneLine.1 same.symm
      · intro text unquoted slash shape
        have first := congrArg List.head? shape
        exact comment ⟨unquoted, slash, head?_of_beforeComment_append noSlash first⟩

/-- No comment begins in lines that are cut. -/
theorem AreLines.isCommentFree_cut {kept : List Line} (areLines : AreLines kept) :
    isCommentFree false ((kept.map Line.cut).flatMap Line.written) = true := by
  induction areLines with
  | nil => rfl
  | last oneLine =>
    have free (quoted : Bool) : isCommentFree quoted [] = true := by rw [isCommentFree]
    have noSlash : ([] : List Char).head? ≠ some '/' := by decide
    rw [List.map_singleton, List.flatMap_singleton]
    exact isCommentFree_beforeComment_append oneLine noSlash free
  | @cons line others oneLine ended _ ih =>
    rw [List.map_cons, List.flatMap_cons, Line.written, Line.cut, List.append_assoc]
    rcases ended with single | double
    · rw [single, List.singleton_append]
      refine isCommentFree_beforeComment_append oneLine ?_ fun quoted ↦ ?_
      · rw [List.head?_cons]
        decide
      · rw [isCommentFree]
        exact ih
    · rw [double, List.cons_append, List.singleton_append]
      refine isCommentFree_beforeComment_append oneLine ?_ fun quoted ↦ ?_
      · rw [List.head?_cons]
        decide
      · rw [isCommentFree_cons_of_ne_slash (by decide) (by decide), isCommentFree]
        exact ih

theorem isCommentFree_stripComments (text : List Char) :
    isCommentFree false (stripComments text) = true := by
  rw [stripComments_eq]
  exact (areLines_lines text).isCommentFree_cut

/-! ## Lines of bytes -/

theorem lineOf_zero (text : List Char) : lineOf text 0 = 1 := by
  cases text with
  | nil => rfl
  | cons c text => rfl

/-- The first line holds all bytes of the first character. -/
theorem lineOf_cons_of_lt {c : Char} {text : List Char} {byte : Nat} (inside : byte < c.utf8Size) :
    lineOf (c :: text) byte = 1 := by
  cases byte with
  | zero => rfl
  | succ byte =>
    have sameLine : c ≠ '\n' := by
      intro newline
      have single : c.utf8Size = 1 := by rw [newline]; rfl
      omega
    rw [lineOf, if_neg sameLine, Nat.sub_eq_zero_of_le (Nat.le_of_lt inside), lineOf_zero]

theorem lineOf_cons_add (c : Char) (text : List Char) (offset : Nat) :
    lineOf (c :: text) (c.utf8Size + offset) = (if c = '\n' then 1 else 0) + lineOf text offset := by
  obtain ⟨size, eq⟩ := Nat.exists_eq_add_one.mpr c.utf8Size_pos
  rw [eq, Nat.add_right_comm, lineOf, eq, Nat.add_right_comm, Nat.add_sub_cancel_left]

/-- Every byte of a character is on the line that the line feeds before the character give. -/
theorem lineOf_append {c : Char} {byte : Nat} (before after : List Char)
    (inside : byte < c.utf8Size) :
    lineOf (before ++ c :: after) (utf8Length before + byte) = 1 + lineFeeds before := by
  induction before with
  | nil =>
    rw [List.nil_append, utf8Length_nil, Nat.zero_add]
    exact lineOf_cons_of_lt inside
  | cons d before ih =>
    have break_ : lineFeeds (d :: before) = lineFeeds before + if d = '\n' then 1 else 0 := by
      rw [lineFeeds, List.count_cons]
      simp only [beq_iff_eq]
      rfl
    rw [List.cons_append, utf8Length_cons, Nat.add_assoc, lineOf_cons_add, ih, break_]
    omega

/-! ## Kept characters -/

/-- The characters of a line, each with whether it is kept when the comment is removed. -/
def Line.marks (line : Line) : List (Char × Bool) :=
  line.cut.body.map (·, true) ++ (line.body.drop line.cut.body.length).map (·, false) ++
    line.terminator.map (·, true)

/-- The characters of a text, each with whether it is kept when comments are removed. -/
def marks (text : List Char) : List (Char × Bool) :=
  (lines text).flatMap Line.marks

/-- The characters that marks stand on. -/
def markedText (marks : List (Char × Bool)) : List Char :=
  marks.map Prod.fst

/-- The characters that are marked as kept. -/
def keptText (marks : List (Char × Bool)) : List Char :=
  (marks.filter Prod.snd).map Prod.fst

theorem Line.markedText_marks (line : Line) : markedText line.marks = line.written := by
  have comment := List.prefix_iff_eq_append.mp (isCut_beforeComment false line.body).isPrefix
  unfold markedText Line.marks Line.written Line.cut
  simp only [List.map_append, List.map_map, Function.comp_def, List.map_id']
  rw [comment]

theorem Line.keptText_marks (line : Line) : keptText line.marks = line.cut.written := by
  have all (text : List Char) : (text.map (·, true)).filter Prod.snd = text.map (·, true) :=
    List.filter_eq_self.mpr (by simp)
  have none (text : List Char) : (text.map (·, false)).filter Prod.snd = [] :=
    List.filter_eq_nil_iff.mpr (by simp)
  unfold keptText Line.marks Line.written
  rw [List.filter_append, List.filter_append, all, none, all, List.append_nil, List.map_append,
    List.map_map, List.map_map]
  simp only [Function.comp_def, List.map_id']
  rfl

theorem markedText_append (first second : List (Char × Bool)) :
    markedText (first ++ second) = markedText first ++ markedText second :=
  List.map_append

theorem keptText_append (first second : List (Char × Bool)) :
    keptText (first ++ second) = keptText first ++ keptText second := by
  rw [keptText, List.filter_append, List.map_append, keptText, keptText]

/-- The marks of a text stand on the text. -/
theorem markedText_marks (text : List Char) : markedText (marks text) = text := by
  calc
    markedText (marks text) = (lines text).flatMap fun line ↦ markedText line.marks :=
      List.map_flatMap
    _ = (lines text).flatMap Line.written := by simp only [Line.markedText_marks]
    _ = text := flatMap_written_lines text

/-- The characters that are marked as kept are the stripped text. -/
theorem keptText_marks (text : List Char) : keptText (marks text) = stripComments text := by
  calc
    keptText (marks text) = (lines text).flatMap fun line ↦ keptText line.marks := by
      rw [keptText, marks, List.filter_flatMap, List.map_flatMap]
      rfl
    _ = (lines text).flatMap fun line ↦ line.cut.written := by simp only [Line.keptText_marks]
    _ = stripComments text := rfl

theorem AreLines.not_mem_body {kept : List Line} (areLines : AreLines kept) {line : Line}
    (member : line ∈ kept) : '\n' ∉ line.body := by
  induction areLines with
  | nil => cases member
  | last oneLine =>
    rw [List.mem_singleton.mp member]
    exact oneLine
  | cons oneLine _ _ ih =>
    rcases List.mem_cons.mp member with rfl | behind
    · exact oneLine
    · exact ih behind

/-- No line feed is dropped. -/
theorem ne_newline_of_mem_marks {text : List Char} {c : Char} (dropped : (c, false) ∈ marks text) :
    c ≠ '\n' := by
  obtain ⟨line, member, inLine⟩ := List.mem_flatMap.mp dropped
  have inside : c ∈ line.body := by
    unfold Line.marks at inLine
    rcases List.mem_append.mp inLine with inBody | inTerminator
    · rcases List.mem_append.mp inBody with inCut | inComment
      · obtain ⟨_, _, same⟩ := List.mem_map.mp inCut
        cases same
      · obtain ⟨_, found, same⟩ := List.mem_map.mp inComment
        cases same
        exact List.mem_of_mem_drop found
    · obtain ⟨_, _, same⟩ := List.mem_map.mp inTerminator
      cases same
  intro newline
  rw [newline] at inside
  exact (areLines_lines text).not_mem_body member inside

/-- Marks that drop no line feed keep all line feeds of the text they stand on. -/
theorem lineFeeds_keptText {marks : List (Char × Bool)}
    (unbroken : ∀ c, (c, false) ∈ marks → c ≠ '\n') :
    lineFeeds (keptText marks) = lineFeeds (markedText marks) := by
  induction marks with
  | nil => rfl
  | cons mark marks ih =>
    have others := ih fun c dropped ↦ unbroken c (List.mem_cons_of_mem _ dropped)
    obtain ⟨c, isKept⟩ := mark
    cases isKept with
    | true =>
      calc
        lineFeeds (keptText ((c, true) :: marks)) = lineFeeds ([c] ++ keptText marks) := rfl
        _ = lineFeeds ([c] ++ markedText marks) := by
          rw [lineFeeds_append, lineFeeds_append, others]
    | false =>
      have noBreak : '\n' ∉ [c] := by
        intro inside
        exact unbroken c List.mem_cons_self (List.mem_singleton.mp inside).symm
      calc
        lineFeeds (keptText ((c, false) :: marks)) = lineFeeds (keptText marks) := rfl
        _ = lineFeeds ([c] ++ markedText marks) := by
          rw [lineFeeds_append, lineFeeds_eq_zero noBreak, others, Nat.zero_add]

/-- What stands at a place of the kept characters is a mark of its own. -/
theorem exists_mark {marks : List (Char × Bool)} {before after : List Char} {c : Char}
    (kept : keptText marks = before ++ c :: after) :
    ∃ front back, marks = front ++ (c, true) :: back ∧ keptText front = before := by
  induction marks generalizing before with
  | nil => exact absurd kept (by simp [keptText])
  | cons mark marks ih =>
    obtain ⟨d, isKept⟩ := mark
    cases isKept with
    | false =>
      obtain ⟨front, back, rfl, same⟩ := ih kept
      exact ⟨(d, false) :: front, back, rfl, same⟩
    | true =>
      change d :: keptText marks = before ++ c :: after at kept
      cases before with
      | nil =>
        obtain ⟨rfl, -⟩ := List.cons.inj kept
        exact ⟨[], marks, rfl, rfl⟩
      | cons e before =>
        obtain ⟨rfl, others⟩ := List.cons.inj kept
        obtain ⟨front, back, rfl, same⟩ := ih others
        exact ⟨(d, true) :: front, back, rfl, congrArg (List.cons d) same⟩

/-- A place in a text at which a character is kept. -/
structure KeptCharacter (text : List Char) where
  front : List (Char × Bool)
  character : Char
  back : List (Char × Bool)
  marks_eq : marks text = front ++ (character, true) :: back

namespace KeptCharacter

variable {text : List Char}

/-- How many bytes stand before a kept character in the text. -/
def offset (kept : KeptCharacter text) : Nat :=
  utf8Length (markedText kept.front)

/-- How many bytes stand before a kept character in the stripped text. -/
def strippedOffset (kept : KeptCharacter text) : Nat :=
  utf8Length (keptText kept.front)

theorem text_eq (kept : KeptCharacter text) :
    text = markedText kept.front ++ kept.character :: markedText kept.back := by
  calc
    text = markedText (marks text) := (markedText_marks text).symm
    _ = markedText kept.front ++ markedText ((kept.character, true) :: kept.back) := by
      rw [kept.marks_eq, markedText_append]

theorem stripComments_eq (kept : KeptCharacter text) :
    stripComments text = keptText kept.front ++ kept.character :: keptText kept.back := by
  calc
    stripComments text = keptText (marks text) := (keptText_marks text).symm
    _ = keptText kept.front ++ keptText ((kept.character, true) :: kept.back) := by
      rw [kept.marks_eq, keptText_append]

/-- Every character of the stripped text was kept. -/
theorem exists_of_stripComments {before after : List Char} {c : Char}
    (stripped : stripComments text = before ++ c :: after) :
    ∃ kept : KeptCharacter text, keptText kept.front = before ∧ kept.character = c := by
  rw [← keptText_marks] at stripped
  obtain ⟨front, back, split, same⟩ := exists_mark stripped
  exact ⟨⟨front, c, back, split⟩, same, rfl⟩

theorem lineFeeds_front (kept : KeptCharacter text) :
    lineFeeds (keptText kept.front) = lineFeeds (markedText kept.front) := by
  apply lineFeeds_keptText
  intro c dropped
  have member : (c, false) ∈ marks text := by
    rw [kept.marks_eq]
    exact List.mem_append_left _ dropped
  exact ne_newline_of_mem_marks member

/-- In the text as it was, the bytes of a kept character are on the line that the line feeds left
before it give. -/
theorem lineOf_offset (kept : KeptCharacter text) (byte : Fin kept.character.utf8Size) :
    lineOf text (kept.offset + byte) = 1 + lineFeeds (keptText kept.front) := by
  calc
    lineOf text (kept.offset + byte) =
        lineOf (markedText kept.front ++ kept.character :: markedText kept.back)
          (utf8Length (markedText kept.front) + byte) := by
      rw [← kept.text_eq, offset]
    _ = 1 + lineFeeds (markedText kept.front) := lineOf_append _ _ byte.isLt
    _ = 1 + lineFeeds (keptText kept.front) := by rw [kept.lineFeeds_front]

theorem lineOf_strippedOffset (kept : KeptCharacter text) (byte : Fin kept.character.utf8Size) :
    lineOf (stripComments text) (kept.strippedOffset + byte) =
      1 + lineFeeds (keptText kept.front) := by
  rw [kept.stripComments_eq, strippedOffset, lineOf_append _ _ byte.isLt]

end KeptCharacter

/-! ## Stripping line by line -/

/-- What removing its comment makes of a line. -/
def Line.CutsTo (line cut : Line) : Prop :=
  IsCut false line.body cut.body ∧ cut.terminator = line.terminator

theorem forall₂_cutsTo_map_cut (lines : List Line) :
    List.Forall₂ Line.CutsTo lines (lines.map Line.cut) := by
  rw [List.forall₂_map_right_iff, List.forall₂_same]
  intro line _
  exact ⟨isCut_beforeComment false line.body, rfl⟩

/-- Comments are removed line by line, and removing them again changes nothing.  Every line is cut
at its first comment and keeps its terminator; the lines that are left stand one behind the other,
and the only one of them that is no line of the stripped text is a last line that was nothing but a
comment.  There are as many line breaks as before, and every byte of a character that is kept is on
the line that it was on. -/
theorem stripComments_linewise (text : List Char) :
    (∃ kept, List.Forall₂ Line.CutsTo (lines text) kept ∧
      stripComments text = kept.flatMap Line.written ∧
      (lines (stripComments text)).map Line.written =
        (kept.map Line.written).filter (· ≠ [])) ∧
    lineFeeds (stripComments text) = lineFeeds text ∧
    stripComments (stripComments text) = stripComments text ∧
    markedText (marks text) = text ∧
    keptText (marks text) = stripComments text ∧
    ∀ (kept : KeptCharacter text) (byte : Fin kept.character.utf8Size),
      lineOf (stripComments text) (kept.strippedOffset + byte) =
        lineOf text (kept.offset + byte) := by
  refine ⟨⟨(lines text).map Line.cut, forall₂_cutsTo_map_cut _, stripComments_eq text, ?_⟩,
    lineFeeds_stripComments text, stripComments_eq_self (isCommentFree_stripComments text),
    markedText_marks text, keptText_marks text, fun kept byte ↦ ?_⟩
  · rw [stripComments_eq]
    exact (areLines_lines text).map_cut.written_lines
  · rw [kept.lineOf_strippedOffset, kept.lineOf_offset]

/-- Cutting may bring a carriage return next to the end of its line. -/
example : stripComments "a\r// \"é\"\nb \"//\" c // d".toList = "a\r\nb \"//\" c ".toList := by
  decide +kernel

end ViewPreview.Text
