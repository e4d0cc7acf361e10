import ViewPreview.Proofs.Agreement.Scan
import ViewPreview.Proofs.Agreement.Structure
import ViewPreview.Proofs.Outline.Message
import ViewPreview.Proofs.Token.Declaration

/-!
# Agreement of the Backends

A declaration around a simple view is read as that view in both ways, and the same problems are
found in the same order.  The messages differ only in the line of a modifier behind a call of
several lines: scanned, it is the line that the call ends on, and found by structure, it is the line
that the call starts on.
-/

namespace ViewPreview.Agreement

open ViewPreview.Text ViewPreview.Outline ViewPreview.Passage
open ViewPreview.Canonical (Leaf label)

/-! ## Both ways of reading -/

namespace SimpleView

/-- The declaration around a view. -/
def source (name : Identifier) (simple : SimpleView) : String :=
  String.ofList (declarationText name ('\n' :: (simple.text ++ ['\n'])))

/-- The view that is shown, with what is reported from the second line of a source on. -/
def preview (backend : Backend) (simple : SimpleView) : Preview :=
  ⟨some simple.view, (simple.caveats backend 2).map Caveat.message⟩

theorem ofSource_fallback (name : Identifier) (simple : SimpleView) :
    Preview.ofSource .fallback (simple.source name) = simple.preview .fallback :=
  (isViewText_text simple).ofSource_lines name (readsAs simple)

theorem ofSource_structural {name : Identifier} (named : name.string ∉ unnamedWords)
    (simple : SimpleView) :
    Preview.ofSource .structural (simple.source name) = simple.preview .structural := by
  obtain ⟨call, read, found⟩ := readStructure_declarationText named (groupedWith_text simple)
  have shown : Body.view (readStatement false (partsOf call.items)) =
      .ok (simple.reading .structural 2) := by
    have expression : (readStatement false (partsOf call.items)).expression =
        some call.expression := call.expression_statementOutline
    rw [Body.view, expression, optionalView?, read]
    rfl
  rw [Preview.ofSource, source, String.toList_ofList,
    (isViewText_text simple).stripComments_declarationText]
  show Preview.ofReading ((readStructure _).bind Body.view) = _
  rw [found, Except.bind, shown]
  rfl

end SimpleView

/-! ## Lines of messages -/

/-- Reports of the same problems with the same messages are the same. -/
theorem eq_of_messages {caveats others : List Caveat}
    (problems : caveats.map Caveat.problem = others.map Caveat.problem)
    (messages : caveats.map Caveat.message = others.map Caveat.message) : caveats = others := by
  induction caveats generalizing others with
  | nil =>
    cases others with
    | nil => rfl
    | cons other others => cases problems
  | cons caveat caveats ih =>
    cases others with
    | nil => cases problems
    | cons other others =>
      obtain ⟨problem, restProblems⟩ := List.cons.inj problems
      obtain ⟨message, restMessages⟩ := List.cons.inj messages
      rw [Caveat.message, Caveat.message, problem] at message
      have first : caveat = other := by
        obtain ⟨line, _⟩ := caveat
        obtain ⟨otherLine, _⟩ := other
        exact congr (congrArg Caveat.mk (placed_inj message)) problem
      rw [first, ih restProblems restMessages]

namespace SimpleView

/-- The previews are the same exactly if the modifiers behind calls of several lines can be read. -/
theorem preview_eq_iff (simple : SimpleView) :
    simple.preview .structural = simple.preview .fallback ↔ simple.IsLevel := by
  rw [← caveats_eq_iff 2 simple]
  constructor
  · intro same
    exact eq_of_messages (problems_caveats .structural .fallback 2 simple)
      (congrArg Preview.messages same)
  · intro same
    rw [preview, preview, same]

/-! ## Agreement -/

/-- The name of a declaration. -/
def shortName : Identifier :=
  ⟨['A'], by decide⟩

/-- A stack of a text and modifiers of both. -/
def stackedText (inner outer : List Modification) : SimpleView :=
  .block (.stack .vStack (by decide) none none)
    [.leaf (.text ⟨['a'], List.forall_mem_singleton.mpr (by decide)⟩) inner] outer

/-- A frame without a size, which cannot be read. -/
def emptyFrame : Modification :=
  ⟨label "frame" (by decide), []⟩

theorem messages_framedText :
    ((stackedText [emptyFrame] []).caveats .structural 2).map Caveat.message =
      ["line 3: Modifier '.frame' expects a width or height"] :=
  rfl

theorem messages_framedStack :
    ((stackedText [] [emptyFrame]).caveats .structural 2).map Caveat.message =
        ["line 2: Modifier '.frame' expects a width or height"] ∧
      ((stackedText [] [emptyFrame]).caveats .fallback 2).map Caveat.message =
        ["line 4: Modifier '.frame' expects a width or height"] :=
  ⟨rfl, rfl⟩

end SimpleView

end ViewPreview.Agreement
