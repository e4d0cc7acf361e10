import ViewPreview.View.Basic

/-!
# Entries in Order

Where a new entry goes in a list of entries in increasing order of keys, as seen from its front.  In
such a list the new entry takes the place of the one under its key, if there is one, and nothing
else changes.
-/

namespace ViewPreview

variable {α : Type} {key other : String} {value held : α} {entries : List (String × α)}

theorem setEntry_before (smaller : key < other) :
    setEntry key value ((other, held) :: entries) =
      (key, value) :: (other, held) :: entries := by
  rw [setEntry, if_pos smaller]

theorem setEntry_after (larger : ¬key < other) (different : key ≠ other) :
    setEntry key value ((other, held) :: entries) =
      (other, held) :: setEntry key value entries := by
  rw [setEntry, if_neg larger, if_neg different]

/-- An entry that is put into a list leaves the entries under other keys. -/
theorem lookup_setEntry_of_ne (different : other ≠ key) :
    (setEntry key value entries).lookup other = entries.lookup other := by
  have passed (value : α) (entries : List (String × α)) :
      ((key, value) :: entries).lookup other = entries.lookup other := by
    rw [List.lookup_cons, beq_eq_false_iff_ne.mpr different]
  fun_induction setEntry key value entries with
  | case1 => exact passed value []
  | case2 first entries smaller => exact passed value (first :: entries)
  | case3 first entries notSmaller same =>
    obtain ⟨_, held⟩ := first
    obtain rfl := same
    rw [passed, passed]
  | case4 first entries notSmaller notSame ih =>
    obtain ⟨name, held⟩ := first
    rw [List.lookup_cons, List.lookup_cons, ih]

/-- What stands in a list of entries after one was put into it. -/
theorem of_mem_setEntry {entry : String × α} (member : entry ∈ setEntry key value entries) :
    entry = (key, value) ∨ entry ∈ entries := by
  fun_induction setEntry key value entries with
  | case1 => exact .inl (List.mem_singleton.mp member)
  | case2 first entries smaller => exact List.mem_cons.mp member
  | case3 first entries notSmaller same =>
    exact (List.mem_cons.mp member).imp_right (List.mem_cons_of_mem first)
  | case4 first entries notSmaller different ih =>
    rcases List.mem_cons.mp member with rfl | behind
    · exact .inr List.mem_cons_self
    · exact (ih behind).imp_right (List.mem_cons_of_mem first)

/-! ## Lists in order -/

/-- Whether entries stand in increasing order of their keys. -/
def AreOrdered (entries : List (String × α)) : Prop :=
  entries.Pairwise fun first second ↦ first.1 < second.1

theorem areOrdered_setEntry (ordered : AreOrdered entries) :
    AreOrdered (setEntry key value entries) := by
  fun_induction setEntry key value entries with
  | case1 => exact List.pairwise_singleton _ _
  | case2 first entries smaller =>
    refine List.pairwise_cons.mpr ⟨fun entry member ↦ ?_, ordered⟩
    rcases List.mem_cons.mp member with rfl | behind
    · exact smaller
    · exact String.lt_trans smaller (List.rel_of_pairwise_cons ordered behind)
  | case3 first entries notSmaller same =>
    refine List.pairwise_cons.mpr ⟨fun entry behind ↦ ?_, ordered.of_cons⟩
    rw [same]
    exact List.rel_of_pairwise_cons ordered behind
  | case4 first entries notSmaller different ih =>
    refine List.pairwise_cons.mpr ⟨fun entry member ↦ ?_, ih ordered.of_cons⟩
    rcases of_mem_setEntry member with rfl | behind
    · apply String.not_le.mp
      intro atMost
      exact different (String.le_antisymm atMost (String.not_lt.mp notSmaller))
    · exact List.rel_of_pairwise_cons ordered behind

/-- In a list in order, every entry is found under its key. -/
theorem lookup_of_mem (ordered : AreOrdered entries) (member : (key, value) ∈ entries) :
    entries.lookup key = some value := by
  induction entries with
  | nil => exact absurd member List.not_mem_nil
  | cons first entries ih =>
    rcases List.mem_cons.mp member with rfl | behind
    · exact List.lookup_cons_self
    · have before : first.1 < key := List.rel_of_pairwise_cons ordered behind
      have different : key ≠ first.1 := fun same ↦ String.lt_irrefl _ (same ▸ before)
      obtain ⟨name, held⟩ := first
      rw [List.lookup_cons, beq_eq_false_iff_ne.mpr different]
      exact ih ordered.of_cons behind

/-- In a list in order, a new entry stands in for the one under its key. -/
theorem perm_setEntry (ordered : AreOrdered entries) :
    (setEntry key value entries).Perm
      ((key, value) :: entries.filter fun entry ↦ entry.1 != key) := by
  -- Behind a key that is not smaller no entry has the key itself.
  have others {first : String × α} {entries : List (String × α)}
      (ordered : AreOrdered (first :: entries)) (atMost : key = first.1 ∨ key < first.1) :
      (entries.filter fun entry ↦ entry.1 != key) = entries := by
    apply List.filter_eq_self.mpr
    intro entry behind
    have later : key < entry.1 := by
      have before := List.rel_of_pairwise_cons ordered behind
      rcases atMost with same | smaller
      · rw [same]
        exact before
      · exact String.lt_trans smaller before
    exact bne_iff_ne.mpr fun same ↦ String.lt_irrefl _ (same ▸ later)
  fun_induction setEntry key value entries with
  | case1 => exact List.Perm.refl _
  | case2 first entries smaller =>
    have different : (first.1 != key) = true :=
      bne_iff_ne.mpr fun same ↦ String.lt_irrefl _ (same ▸ smaller)
    rw [List.filter_cons, if_pos different, others ordered (.inr smaller)]
  | case3 first entries notSmaller same =>
    have dropped : ¬(first.1 != key) = true := by
      rw [same, bne_self_eq_false]
      exact Bool.false_ne_true
    rw [List.filter_cons, if_neg dropped, others ordered (.inl same)]
  | case4 first entries notSmaller different ih =>
    have kept : (first.1 != key) = true := bne_iff_ne.mpr (Ne.symm different)
    rw [List.filter_cons, if_pos kept]
    exact ((ih ordered.of_cons).cons first).trans (.swap _ _ _)

end ViewPreview
