import ViewPreview.Proofs.Text.Occurrence
import ViewPreview.Style.Symbol

/-!
# Glyphs of Symbols

The glyph of a symbol is that of the longest run of its first components that the table knows.  The
same glyph is found by shortening: a name that the table does not know loses its last component, as
long as there is more than one.
-/

namespace ViewPreview.Style

open ViewPreview.Text

/-! ## Beginnings -/

/-- The components of a name, between its dots.  Components may be empty. -/
def components (name : String) : List (List Char) :=
  splitAll '.' name.toList

/-- Whether the components of a text are the first components of a name. -/
def IsBeginning (beginning name : String) : Prop :=
  components beginning <+: components name

/-- The text that the first components of a name make up, up to the one at a given index. -/
def beginningUpTo (parts : List (List Char)) (last : Nat) : String :=
  String.ofList (['.'].intercalate (parts.take (last + 1)))

section Beginnings

variable {name beginning : String}

theorem beginnings_eq (name : String) :
    beginnings name =
      (List.range (components name).length).reverse.map (beginningUpTo (components name)) :=
  rfl

theorem components_injective (same : components beginning = components name) : beginning = name := by
  have joined := congrArg ['.'].intercalate same
  rw [components, components, intercalate_splitAll, intercalate_splitAll] at joined
  exact String.toList_injective joined

theorem components_beginningUpTo (name : String) (last : Nat) :
    components (beginningUpTo (components name) last) = (components name).take (last + 1) := by
  have nonempty : (components name).take (last + 1) ≠ [] := by
    rw [Ne, List.take_eq_nil_iff, not_or]
    exact ⟨Nat.succ_ne_zero last, splitAll_ne_nil '.' name.toList⟩
  rw [components, beginningUpTo, String.toList_ofList, splitAll_intercalate nonempty]
  intro part member
  exact not_mem_of_mem_splitAll (List.mem_of_mem_take member)

/-- The beginnings of a name are the texts whose components are its first ones. -/
theorem mem_beginnings_iff : beginning ∈ beginnings name ↔ IsBeginning beginning name := by
  rw [beginnings_eq, List.mem_map]
  constructor
  · rintro ⟨last, -, rfl⟩
    rw [IsBeginning, components_beginningUpTo]
    exact List.take_prefix _ _
  · intro isBeginning
    have positive : 0 < (components beginning).length :=
      List.length_pos_iff.mpr (splitAll_ne_nil '.' beginning.toList)
    have bound := isBeginning.length_le
    refine ⟨(components beginning).length - 1, ?_, components_injective ?_⟩
    · rw [List.mem_reverse, List.mem_range]
      omega
    · rw [components_beginningUpTo, Nat.sub_add_cancel positive]
      exact (List.prefix_iff_eq_take.mp isBeginning).symm

/-- Later beginnings are beginnings of the earlier ones. -/
theorem pairwise_beginnings (name : String) :
    (beginnings name).Pairwise fun longer shorter ↦ IsBeginning shorter longer := by
  rw [beginnings_eq, List.pairwise_map, List.pairwise_reverse]
  refine List.pairwise_lt_range.imp fun {shorter longer} before ↦ ?_
  rw [IsBeginning, components_beginningUpTo, components_beginningUpTo]
  exact List.take_prefix_take_left (Nat.succ_le_succ (Nat.le_of_lt before))

end Beginnings

/-! ## Shortening -/

/-- The text in front of the last dot of a text that has one. -/
def beforeLastDot? (text : List Char) : Option (List Char) :=
  (splitFirst? '.' text.reverse).map fun parts ↦ parts.2.reverse

/-- A text with a dot is what stands in front of the last one, that dot, and one more component. -/
theorem exists_of_beforeLastDot? {text head : List Char} (found : beforeLastDot? text = some head) :
    ∃ last, text = head ++ '.' :: last ∧ '.' ∉ last := by
  obtain ⟨⟨last, front⟩, split, rfl⟩ := Option.map_eq_some_iff.mp found
  obtain ⟨whole, absent⟩ := append_of_splitFirst? split
  refine ⟨last.reverse, ?_, fun member ↦ absent (List.mem_reverse.mp member)⟩
  rw [← text.reverse_reverse, ← whole, List.reverse_append, List.reverse_cons, List.append_assoc,
    List.singleton_append]

theorem not_mem_of_beforeLastDot? {text : List Char} (found : beforeLastDot? text = none) :
    '.' ∉ text := by
  intro member
  have reversed : '.' ∈ text.reverse := List.mem_reverse.mpr member
  obtain ⟨before, behind, split⟩ := exists_splitFirst?_append reversed
  have split := split []
  rw [List.append_nil] at split
  rw [beforeLastDot?, split] at found
  cases found

theorem length_beforeLastDot? {text head : List Char} (found : beforeLastDot? text = some head) :
    head.length < text.length := by
  obtain ⟨last, rfl, -⟩ := exists_of_beforeLastDot? found
  rw [List.length_append, List.length_cons]
  omega

/-- The glyph found by taking components off the end of a name until the table knows the rest. -/
def glyphByShortening (name : List Char) : String :=
  match glyphs.lookup (String.ofList name) with
  | some glyph => glyph
  | none =>
    match _found : beforeLastDot? name with
    | some head => glyphByShortening head
    | none => missingGlyph
termination_by name.length
decreasing_by exact length_beforeLastDot? _found

section Shortening

variable {name head : List Char}

theorem beginnings_of_beforeLastDot?_none (found : beforeLastDot? name = none) :
    beginnings (String.ofList name) = [String.ofList name] := by
  have single : components (String.ofList name) = [name] := by
    rw [components, String.toList_ofList, splitAll_eq_singleton (not_mem_of_beforeLastDot? found)]
  rw [beginnings_eq, single]
  exact congrArg (fun text ↦ [String.ofList text]) List.intercalate_singleton

/-- A name is followed by the beginnings of what stands in front of its last dot. -/
theorem beginnings_of_beforeLastDot?_some (found : beforeLastDot? name = some head) :
    beginnings (String.ofList name) = String.ofList name :: beginnings (String.ofList head) := by
  obtain ⟨last, rfl, absent⟩ := exists_of_beforeLastDot? found
  have parts : components (String.ofList (head ++ '.' :: last)) =
      components (String.ofList head) ++ [last] := by
    rw [components, components, String.toList_ofList, String.toList_ofList, splitAll_append,
      splitAll_eq_singleton absent]
  have number : (components (String.ofList (head ++ '.' :: last))).length =
      (components (String.ofList head)).length + 1 := by
    rw [parts, List.length_append, List.length_singleton]
  have whole : beginningUpTo (components (String.ofList (head ++ '.' :: last)))
      (components (String.ofList head)).length = String.ofList (head ++ '.' :: last) := by
    apply components_injective
    rw [components_beginningUpTo, List.take_of_length_le (Nat.le_of_eq number)]
  rw [beginnings_eq, number, List.range_succ, List.reverse_append, List.reverse_singleton,
    List.singleton_append, List.map_cons, whole, parts, beginnings_eq]
  congr 1
  apply List.map_congr_left
  intro index member
  rw [List.mem_reverse, List.mem_range] at member
  rw [beginningUpTo, beginningUpTo, List.take_append_of_le_length member]

/-- A name is the longest of its beginnings. -/
theorem exists_beginnings_eq_cons (name : List Char) :
    ∃ shorter, beginnings (String.ofList name) = String.ofList name :: shorter := by
  cases found : beforeLastDot? name with
  | none => exact ⟨[], beginnings_of_beforeLastDot?_none found⟩
  | some head => exact ⟨_, beginnings_of_beforeLastDot?_some found⟩

/-- Looking through the beginnings, longest first, is shortening the name. -/
theorem symbol_eq_glyphByShortening (name : List Char) :
    symbol (String.ofList name) = glyphByShortening name := by
  fun_induction glyphByShortening name with
  | case1 name glyph known =>
    obtain ⟨shorter, longest⟩ := exists_beginnings_eq_cons name
    rw [symbol, longest, List.findSome?_cons, known, Option.getD_some]
  | case2 name unknown head found ih =>
    rw [symbol, beginnings_of_beforeLastDot?_some found, List.findSome?_cons, unknown]
    exact ih
  | case3 name unknown found =>
    rw [symbol, beginnings_of_beforeLastDot?_none found, List.findSome?_cons, unknown]
    rfl

end Shortening

/-! ## The longest known beginning -/

/-- Whether a beginning of a name has a glyph, and every other one with a glyph is a beginning of
it. -/
structure LongestKnown (name beginning glyph : String) : Prop where
  isBeginning : IsBeginning beginning name
  known : glyphs.lookup beginning = some glyph
  longest : ∀ other, IsBeginning other name → (glyphs.lookup other).isSome = true →
    IsBeginning other beginning

section Longest

variable {name beginning glyph : String}

theorem LongestKnown.unique {other otherGlyph : String} (one : LongestKnown name beginning glyph)
    (another : LongestKnown name other otherGlyph) : glyph = otherGlyph := by
  have within : IsBeginning beginning other :=
    another.longest beginning one.isBeginning (by rw [one.known]; rfl)
  have around : IsBeginning other beginning :=
    one.longest other another.isBeginning (by rw [another.known]; rfl)
  have same : beginning = other :=
    components_injective (within.eq_of_length_le around.length_le)
  have known := one.known
  rw [same, another.known] at known
  exact (Option.some.inj known).symm

theorem findSome?_beginnings_eq_some_iff :
    ((beginnings name).findSome? fun beginning ↦ glyphs.lookup beginning) = some glyph ↔
      ∃ beginning, LongestKnown name beginning glyph := by
  have ofFound {glyph : String}
      (found : ((beginnings name).findSome? fun beginning ↦ glyphs.lookup beginning) = some glyph) :
      ∃ beginning, LongestKnown name beginning glyph := by
    obtain ⟨longer, beginning, shorter, whole, known, unknown⟩ :=
      List.findSome?_eq_some_iff.mp found
    have ordered := pairwise_beginnings name
    rw [whole, List.pairwise_append, List.pairwise_cons] at ordered
    refine ⟨beginning, mem_beginnings_iff.mp ?_, known, fun other isBeginning has ↦ ?_⟩
    · rw [whole]
      exact List.mem_append_right longer List.mem_cons_self
    · have member := mem_beginnings_iff.mpr isBeginning
      rw [whole, List.mem_append, List.mem_cons] at member
      rcases member with before | rfl | behind
      · rw [unknown other before] at has
        cases has
      · exact List.prefix_rfl
      · exact ordered.2.1.1 other behind
  refine ⟨ofFound, fun ⟨beginning, longest⟩ ↦ ?_⟩
  cases found : (beginnings name).findSome? fun beginning ↦ glyphs.lookup beginning with
  | none =>
    have unknown := List.findSome?_eq_none_iff.mp found beginning
      (mem_beginnings_iff.mpr longest.isBeginning)
    rw [longest.known] at unknown
    cases unknown
  | some other =>
    obtain ⟨_, another⟩ := ofFound found
    rw [longest.unique another]

end Longest

/-- No symbol of the table has the glyph that is shown for the others. -/
theorem ne_missingGlyph_of_lookup {beginning glyph : String}
    (known : glyphs.lookup beginning = some glyph) : glyph ≠ missingGlyph := by
  have all : ∀ entry ∈ glyphs, entry.2 ≠ missingGlyph := by decide
  obtain ⟨before, behind, table, -⟩ := List.lookup_eq_some_iff.mp known
  exact all (beginning, glyph) (table ▸ List.mem_append_right before List.mem_cons_self)

/-- The glyph of a symbol is that of the longest run of its first components that the table knows,
and the box exactly when the table knows none of these runs.  Taking components off the end until the
table knows the rest comes to an end and finds the same glyph. -/
theorem symbol_longest (name : String) :
    symbol name = glyphByShortening name.toList ∧
    (∀ glyph, symbol name = glyph ∧ glyph ≠ missingGlyph ↔
      ∃ beginning, LongestKnown name beginning glyph) ∧
    (symbol name = missingGlyph ↔
      ∀ beginning, IsBeginning beginning name → glyphs.lookup beginning = none) := by
  have shortened : symbol name = glyphByShortening name.toList := by
    rw [← symbol_eq_glyphByShortening, String.ofList_toList]
  refine ⟨shortened, fun glyph ↦ ?_, ?_⟩
  · rw [← findSome?_beginnings_eq_some_iff, symbol]
    cases found : (beginnings name).findSome? fun beginning ↦ glyphs.lookup beginning with
    | none => exact ⟨fun ⟨same, other⟩ ↦ absurd same.symm other, nofun⟩
    | some known =>
      obtain ⟨beginning, longest⟩ := findSome?_beginnings_eq_some_iff.mp found
      rw [Option.getD_some, Option.some.injEq]
      refine and_iff_left_of_imp ?_
      rintro rfl
      exact ne_missingGlyph_of_lookup longest.known
  · simp only [← mem_beginnings_iff, ← List.findSome?_eq_none_iff, symbol]
    cases found : (beginnings name).findSome? fun beginning ↦ glyphs.lookup beginning with
    | none => exact ⟨fun _ ↦ rfl, fun _ ↦ rfl⟩
    | some known =>
      obtain ⟨beginning, longest⟩ := findSome?_beginnings_eq_some_iff.mp found
      exact ⟨fun same ↦ absurd same (ne_missingGlyph_of_lookup longest.known), nofun⟩

/-- A symbol with a dot in its name wins over the one it is a variant of. -/
example : symbol "person.2.fill..circle" = "👥" := by decide

end ViewPreview.Style
