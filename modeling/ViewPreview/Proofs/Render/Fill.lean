import ViewPreview.Proofs.Call.Matching
import ViewPreview.Proofs.Render.Layer
import ViewPreview.Proofs.Style.Declared

/-!
# Paints Where They Are Put

A paint is put into a style sheet and, by a layer that is nothing but a paint, into the value of an
attribute, in both places as it stands.  It is written with a few characters only, and at most one
pair of parentheses, so that a reader of the style finds it whole in its declaration, and a reader
of the markup finds it whole in its attribute, whatever the names of its colors are.
-/

namespace ViewPreview.Style

open ViewPreview.Text

/-- A character that paints are written with. -/
def isPaintPart (c : Char) : Bool :=
  isAsciiLetter c || isAsciiDigit c || [' ', '#', '(', ')', ',', '.', '%', '-'].contains c

theorem isPaintPart_of_isListPart {c : Char} (inList : isListPart c = true) :
    isPaintPart c = true := by
  simp only [isListPart, isTermPart, isPaintPart, Bool.or_eq_true, List.contains_iff_mem,
    List.mem_cons, List.not_mem_nil, or_false] at inList ⊢
  rcases inList with (alphanumeric | rfl | rfl | rfl | rfl) | rfl | rfl
  · exact .inl alphanumeric
  all_goals decide

theorem consists_isPaintPart_of_listed {text : String} (listed : Listed text) :
    Consists isPaintPart text :=
  listed.mono fun _ ↦ isPaintPart_of_isListPart

theorem balanced_of_listed {text : String} (listed : Listed text) :
    Call.Balanced '(' ')' text.toList := by
  apply Call.balanced_of_forall
  intro c member
  have inList := consists_iff.mp listed c member
  constructor
  · rintro rfl
    exact absurd inList (by decide)
  · rintro rfl
    exact absurd inList (by decide)

section Applied

variable {text : String}

theorem Applied.consists_isPaintPart (applied : Applied text) : Consists isPaintPart text := by
  obtain ⟨name, arguments, rfl, named, listed⟩ := applied
  simp only [consists_append]
  exact ⟨⟨⟨consists_isPaintPart_of_listed named, consists_of_all (by decide)⟩,
    consists_isPaintPart_of_listed listed⟩, consists_of_all (by decide)⟩

theorem Applied.balanced (applied : Applied text) : Call.Balanced '(' ')' text.toList := by
  obtain ⟨name, arguments, rfl, named, listed⟩ := applied
  have enclosed := (balanced_of_listed named).append
    ((balanced_of_listed listed).enclosed (by decide))
  have written : (name ++ "(" ++ arguments ++ ")").toList =
      name.toList ++ '(' :: (arguments.toList ++ [')']) := by
    simp [String.toList_append]
  rwa [written]

end Applied

variable (value : Paint)

theorem consists_isPaintPart_paint : Consists isPaintPart (paint value) := by
  rcases listed_or_applied_paint value with listed | applied
  · exact consists_isPaintPart_of_listed listed
  · exact applied.consists_isPaintPart

theorem matched_paint : Call.Matched '(' ')' (paint value).toList := by
  rw [← Call.balanced_iff_matched (by decide)]
  rcases listed_or_applied_paint value with listed | applied
  · exact balanced_of_listed listed
  · exact applied.balanced

end ViewPreview.Style

namespace ViewPreview.Render

open ViewPreview.Html (Attribute)
open ViewPreview.Style ViewPreview.Text

variable (value : Paint)

/-- What a layer of paint declares. -/
def fillDeclarations : List Declaration :=
  [⟨"width", "100%"⟩, ⟨"height", "100%"⟩, ⟨"background", paint value⟩]

theorem write_fillDeclarations :
    "; ".intercalate ((fillDeclarations value).map Declaration.write) =
      "width: 100%; height: 100%; background: " ++ paint value := by
  rw [← String.toList_inj]
  simp [fillDeclarations, Declaration.write, String.intercalate_cons_cons, String.toList_append]

theorem settled_fillDeclarations : ∀ declaration ∈ fillDeclarations value,
    Settled (declaration.property, declaration.value) := by
  simp only [fillDeclarations, List.forall_mem_cons]
  exact ⟨settled_constant (by decide) rfl (by decide),
    settled_constant (by decide) rfl (by decide), settled_paint (by decide) value,
    List.forall_mem_nil _⟩

/-- A layer of paint declares its size and the paint, and nothing else. -/
theorem readStyle_fill :
    readStyle ("width: 100%; height: 100%; background: " ++ paint value) =
      fillDeclarations value := by
  have settled := settled_fillDeclarations value
  rw [← write_fillDeclarations, readStyle_intercalate_iff fun declaration member ↦
    readable_of_declares (Or.inl (settled declaration member))]
  exact fun declaration member ↦ (settled declaration (List.dropLast_subset _ member)).closed

/-- Every paint is written with letters, digits, blanks and a few signs, and its parentheses match.
Wherever it stands in a style, a reader passes over it to what follows: it ends no declaration.
The layer that is nothing but the paint is one element with two attributes, and the style of it
declares the paint as it is written. -/
theorem paint_whole (value : Paint) :
    Consists isPaintPart (paint value) ∧
    Call.Matched '(' ')' (paint value).toList ∧
    (∀ rest, splitStyle .outside ((paint value).toList ++ rest) =
      ((paint value).toList ++ (splitStyle .outside rest).1, (splitStyle .outside rest).2)) ∧
    Html.read (fill value).write = some
      [.start "div"
        [.verbatim "class" "sv-fill",
          .verbatim "style" ("width: 100%; height: 100%; background: " ++ paint value)],
        .finish "div"] ∧
    readStyle ("width: 100%; height: 100%; background: " ++ paint value) =
      [⟨"width", "100%"⟩, ⟨"height", "100%"⟩, ⟨"background", paint value⟩] := by
  refine ⟨consists_isPaintPart_paint value, matched_paint value, fun rest ↦ ?inStyle, ?inMarkup,
    readStyle_fill value⟩
  case inStyle => exact splitStyle_append (closed_of_plain (plain_paint value))
  case inMarkup =>
    rw [Html.read_write (sound_fill value)]
    rfl

end ViewPreview.Render
