import ViewPreview.Html.Basic

/-!
# Inert Texts

A text consists of the characters of a class; texts that are put together or joined consist of a
class when their parts do.  A text is inert when it contains no quote and no angle bracket.  Between
quotes such a text ends neither its value nor the tag around it, and between tags it begins no tag.
Every escaped text is inert, and so is whatever is put together from inert texts.
-/

namespace ViewPreview.Text

/-- A text whose characters all belong to a class. -/
def Consists (part : Char → Bool) (text : String) : Prop :=
  text.toList.all part = true

variable {part other : Char → Bool} {first second separator text : String}

theorem consists_iff : Consists part text ↔ ∀ c ∈ text.toList, part c = true :=
  List.all_eq_true

theorem Consists.mono (consists : Consists part text)
    (within : ∀ c, part c = true → other c = true) : Consists other text := by
  rw [consists_iff] at consists ⊢
  exact fun c member ↦ within c (consists c member)

@[simp]
theorem consists_append :
    Consists part (first ++ second) ↔ Consists part first ∧ Consists part second := by
  simp only [consists_iff, String.toList_append, List.forall_mem_append]

theorem consists_ofList {text : List Char} (all : ∀ c ∈ text, part c = true) :
    Consists part (String.ofList text) := by
  rw [consists_iff, String.toList_ofList]
  exact all

/-- The characters of a text that is written out are at hand, so they are looked at one by one. -/
theorem consists_of_all {text : List Char} (all : text.all part = true) :
    Consists part (String.ofList text) :=
  consists_ofList (List.all_eq_true.mp all)

/-- Texts joined by a separator consist of a class when they and the separator do. -/
theorem consists_intercalate {texts : List String} (between : Consists part separator)
    (all : ∀ text ∈ texts, Consists part text) :
    Consists part (separator.intercalate texts) := by
  induction texts with
  | nil =>
    rw [String.intercalate_nil]
    exact consists_of_all rfl
  | cons first others ih =>
    have consistsFirst := all first List.mem_cons_self
    cases others with
    | nil =>
      rw [String.intercalate_singleton]
      exact consistsFirst
    | cons second others =>
      rw [String.intercalate_cons_cons, consists_append, consists_append]
      exact ⟨⟨consistsFirst, between⟩,
        ih fun text member ↦ all text (List.mem_cons_of_mem _ member)⟩

end ViewPreview.Text

namespace ViewPreview.Html

open ViewPreview.Text (consists_iff consists_append consists_ofList consists_of_all)

/-- Whether a character ends no quoted value and neither begins nor ends a tag. -/
def isInert (c : Char) : Bool :=
  c != '"' && c != '<' && c != '>'

/-- A text without quotes and angle brackets. -/
def Inert (text : String) : Prop :=
  text.toList.all isInert = true

instance (text : String) : Decidable (Inert text) :=
  inferInstanceAs (Decidable (text.toList.all isInert = true))

theorem inert_iff {text : String} : Inert text ↔ ∀ c ∈ text.toList, isInert c = true :=
  consists_iff

theorem isInert_iff {c : Char} : isInert c = true ↔ c ≠ '"' ∧ c ≠ '<' ∧ c ≠ '>' := by
  simp [isInert, and_assoc]

@[simp]
theorem inert_append {first second : String} :
    Inert (first ++ second) ↔ Inert first ∧ Inert second :=
  consists_append

theorem inert_ofList {text : List Char} (all : ∀ c ∈ text, isInert c = true) :
    Inert (String.ofList text) :=
  consists_ofList all

/-- The characters of a text that is written out are at hand, so they are looked at one by one. -/
theorem inert_of_all {text : List Char} (all : text.all isInert = true) :
    Inert (String.ofList text) :=
  consists_of_all all

/-! ## Escaping -/

/-- No character is written as one that has a meaning in markup. -/
theorem inert_escapeChar (c : Char) : (escapeChar c).all isInert = true := by
  unfold escapeChar
  split
  case h_1 => decide
  case h_2 => decide
  case h_3 => decide
  case h_4 => decide
  case h_5 noAmpersand noOpen noClose noQuote =>
    rw [List.all_cons, List.all_nil, Bool.and_true]
    exact isInert_iff.mpr ⟨noQuote, noOpen, noClose⟩

/-- Every escaped text is inert. -/
theorem inert_escape (text : String) : Inert (escape text) := by
  apply inert_ofList
  intro c member
  obtain ⟨original, -, written⟩ := List.mem_flatMap.mp member
  exact List.all_eq_true.mp (inert_escapeChar original) c written

end ViewPreview.Html
