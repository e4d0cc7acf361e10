import Mathlib.Data.List.Infix
import ViewPreview.CommandLine.Host

/-!
# Writing to Directories

Writing a text to a path changes what that path leads to and nothing else.  No directory comes or
goes, because the way to a file goes through directories that are there already, so every path leads
to the same place as before.
-/

namespace ViewPreview.CommandLine.Directory

variable {directory changed : Directory} {home path other content : String}
variable {here way front : List String} {parts : List String}

/-! ## Ways -/

/-- Whether every part of a way but the last leads to a directory. -/
def HasParents (directory : Directory) (way : List String) : Prop :=
  ∀ front, front <+: way → front.length < way.length → directory.isDirectory front = true

/-- A directory is the whole, or lies on the way to a file. -/
theorem isDirectory_iff : directory.isDirectory way = true ↔
    way = [] ∨ ∃ file ∈ directory.files, way.length < file.1.length ∧ way <+: file.1 := by
  simp only [isDirectory, Bool.or_eq_true, List.isEmpty_iff, List.any_eq_true, Bool.and_eq_true,
    decide_eq_true_eq, List.isPrefixOf_iff_prefix]

theorem hasParents_nil : directory.HasParents [] := by
  intro front _ shorter
  exact absurd shorter (Nat.not_lt_zero _)

theorem HasParents.dropLast (parents : directory.HasParents way) :
    directory.HasParents way.dropLast := by
  intro front isPrefix shorter
  have shortened : way.dropLast <+: way := List.dropLast_prefix way
  exact parents front (isPrefix.trans shortened) (shorter.trans_le shortened.length_le)

theorem HasParents.concat (parents : directory.HasParents way)
    (isDirectory : directory.isDirectory way = true) (part : String) :
    directory.HasParents (way ++ [part]) := by
  intro front isPrefix shorter
  rcases List.prefix_concat_iff.mp isPrefix with whole | isPrefix
  · rw [whole] at shorter
    exact absurd shorter (Nat.lt_irrefl _)
  · rcases isPrefix.length_le.eq_or_lt with same | shorter
    · rw [isPrefix.eq_of_length same]
      exact isDirectory
    · exact parents front isPrefix shorter

/-- A path leads through directories. -/
theorem HasParents.follow (parents : directory.HasParents here)
    (follows : directory.follow here parts = some way) : directory.HasParents way := by
  induction parts generalizing here with
  | nil =>
    rw [Directory.follow, Option.some_inj] at follows
    exact follows ▸ parents
  | cons part parts ih =>
    rw [Directory.follow] at follows
    cases isDirectory : directory.isDirectory here with
    | false => simp [isDirectory] at follows
    | true =>
      simp only [isDirectory, Bool.not_true, Bool.false_eq_true, if_false] at follows
      split at follows
      · exact ih parents follows
      · split at follows
        · split at follows
          · exact absurd follows (Option.some_ne_none way).symm
          · exact ih parents.dropLast follows
        · exact ih (parents.concat isDirectory part) follows

theorem hasParents_of_place? (leads : directory.place? home path = some way) :
    directory.HasParents way := by
  obtain ⟨relative, -, follows⟩ := Option.bind_eq_some_iff.mp leads
  exact hasParents_nil.follow follows

/-! ## Files -/

/-- A file on the way to which there are directories adds no directory. -/
theorem isDirectory_put (parents : directory.HasParents way) (content : String) :
    (directory.put way content).isDirectory = directory.isDirectory := by
  funext front
  rw [Bool.eq_iff_iff]
  constructor
  · intro isDirectory
    rcases isDirectory_iff.mp isDirectory with root | ⟨file, isFile, shorter, isPrefix⟩
    · exact isDirectory_iff.mpr (.inl root)
    · rcases List.mem_append.mp isFile with old | new
      · exact isDirectory_iff.mpr (.inr ⟨file, List.mem_of_mem_filter old, shorter, isPrefix⟩)
      · rw [List.mem_singleton.mp new] at shorter isPrefix
        exact parents front isPrefix shorter
  · intro isDirectory
    apply isDirectory_iff.mpr
    rcases isDirectory_iff.mp isDirectory with root | ⟨file, isFile, shorter, isPrefix⟩
    · exact .inl root
    · right
      by_cases same : file.1 = way
      · have new : (way, content) ∈ (directory.put way content).files :=
          List.mem_append_right _ List.mem_cons_self
        exact ⟨(way, content), new, same ▸ shorter, same ▸ isPrefix⟩
      · have kept : file ∈ directory.files.filter fun file ↦ file.1 != way :=
          List.mem_filter.mpr ⟨isFile, bne_iff_ne.mpr same⟩
        exact ⟨file, List.mem_append_left _ kept, shorter, isPrefix⟩

/-- Which place a path leads to is a matter of the directories alone. -/
theorem follow_congr (same : changed.isDirectory = directory.isDirectory) :
    changed.follow here parts = directory.follow here parts := by
  induction parts generalizing here with
  | nil => rfl
  | cons part parts ih => simp only [follow, same, ih]

theorem place?_congr (same : changed.isDirectory = directory.isDirectory) :
    changed.place? home path = directory.place? home path := by
  unfold place?
  simp only [follow_congr same]

theorem lookup_put (directory : Directory) (way : List String) (content : String) :
    (directory.put way content).files.lookup way = some content := by
  have removed : (directory.files.filter fun file ↦ file.1 != way).lookup way = none := by
    rw [List.lookup_eq_none_iff]
    intro file kept
    have different : file.1 ≠ way := bne_iff_ne.mp (List.mem_filter.mp kept).2
    exact bne_iff_ne.mpr different.symm
  rw [put, List.lookup_append, removed, Option.none_or, List.lookup_cons_self]

theorem lookup_put_of_ne (different : front ≠ way) :
    (directory.put way content).files.lookup front = directory.files.lookup front := by
  have added : [(way, content)].lookup front = none := by
    rw [List.lookup_cons, beq_eq_false_iff_ne.mpr different, List.lookup_nil]
  rw [put, List.lookup_append, added, Option.or_none]
  induction directory.files with
  | nil => rfl
  | cons file files ih =>
    by_cases removed : file.1 = way
    · have passed : front ≠ file.1 := removed ▸ different
      have isRemoved : ¬(file.1 != way) = true := by simp [removed]
      rw [List.filter_cons, if_neg isRemoved, ih, List.lookup_cons, beq_eq_false_iff_ne.mpr passed]
    · have isKept : (file.1 != way) = true := bne_iff_ne.mpr removed
      rw [List.filter_cons, if_pos isKept, List.lookup_cons, List.lookup_cons, ih]

/-! ## Writing -/

/-- Whether a text can be written to a path: there are directories on the way to the place it leads
to, and none at that place. -/
def IsWritable (directory : Directory) (home path : String) : Prop :=
  ∃ way, directory.place? home path = some way ∧ directory.isDirectory way = false

theorem exists_write? (writable : directory.IsWritable home path) (content : String) :
    ∃ changed, directory.write? home path content = some changed := by
  obtain ⟨way, leads, isFile⟩ := writable
  exact ⟨directory.put way content, by rw [write?, leads, Option.bind_some, isFile]; rfl⟩

theorem write?_eq_none (unwritable : ¬directory.IsWritable home path) :
    directory.write? home path content = none := by
  rw [write?, Option.bind_eq_none_iff]
  intro way leads
  rw [if_pos]
  by_contra isFile
  exact unwritable ⟨way, leads, Bool.not_eq_true _ ▸ isFile⟩

/-- Writing puts the text at the place that the path leads to. -/
theorem eq_put_of_write? (writes : directory.write? home path content = some changed) :
    ∃ way, directory.place? home path = some way ∧ directory.isDirectory way = false ∧
      changed = directory.put way content := by
  obtain ⟨way, leads, puts⟩ := Option.bind_eq_some_iff.mp writes
  cases isDirectory : directory.isDirectory way with
  | true => simp [isDirectory] at puts
  | false =>
    rw [isDirectory, if_neg Bool.false_ne_true, Option.some_inj] at puts
    exact ⟨way, leads, isDirectory, puts.symm⟩

theorem isDirectory_write? (writes : directory.write? home path content = some changed) :
    changed.isDirectory = directory.isDirectory := by
  obtain ⟨way, leads, -, rfl⟩ := eq_put_of_write? writes
  exact isDirectory_put (hasParents_of_place? leads) content

/-- What has been written to a path can be read there. -/
theorem entry_write? (writes : directory.write? home path content = some changed) :
    changed.entry home path = .text content := by
  have directories := isDirectory_write? writes
  obtain ⟨way, leads, isFile, rfl⟩ := eq_put_of_write? writes
  simp only [entry, place?_congr directories, leads, directories, isFile, Bool.false_eq_true,
    if_false, lookup_put]

/-- Paths that lead elsewhere lead to what they led to before. -/
theorem entry_write?_of_ne (writes : directory.write? home path content = some changed)
    (elsewhere : directory.place? home other ≠ directory.place? home path) :
    changed.entry home other = directory.entry home other := by
  have directories := isDirectory_write? writes
  obtain ⟨way, leads, isFile, rfl⟩ := eq_put_of_write? writes
  unfold entry
  rw [place?_congr directories, directories]
  cases otherLeads : directory.place? home other with
  | none => rfl
  | some front =>
    rw [otherLeads, leads, ne_eq, Option.some_inj] at elsewhere
    simp only [lookup_put_of_ne elsewhere]

end ViewPreview.CommandLine.Directory
