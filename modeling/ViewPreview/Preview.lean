import ViewPreview.Json.ViewEncoding
import ViewPreview.Passage.Declaration
import ViewPreview.Text.Comment
import ViewPreview.Token.Declaration

/-!
# Previews

From a source text to its view.  A preview has a view, or messages that say why there is none, or
both when parts of the source were left out.
-/

namespace ViewPreview

open ViewPreview.Outline

/-- The way a source is read.  Left to itself, a preview is read by its structure. -/
inductive Backend where
  | automatic
  | structural
  | fallback
deriving Repr, DecidableEq, Inhabited

namespace Backend

/-- The name of a backend. -/
def name : Backend → String
  | .automatic => "auto"
  | .structural => "structural"
  | .fallback => "fallback"

/-- The backend with a name in small letters. -/
def ofName? (name : String) : Option Backend :=
  [automatic, structural, fallback].find? fun backend ↦ backend.name == name

/-- The backend that a text names, in letters of either case, or the complaint about it. -/
def ofText (text : String) : Except String Backend :=
  let lowered := Text.lower text
  match ofName? lowered with
  | some backend => .ok backend
  | none =>
    .error ("unknown backend '" ++ lowered ++ "' (expected auto, structural or fallback)")

/-- The backend that does the reading. -/
def resolved : Backend → Backend
  | .automatic => .structural
  | backend => backend

end Backend

/-- The outcome of reading a source. -/
structure Preview where
  root : Option View
  messages : List String
deriving Repr

namespace Preview

/-- Whether there is a view from which something was left out. -/
def isPartial (preview : Preview) : Bool :=
  preview.root.isSome && !preview.messages.isEmpty

/-- The outcome of a reading or its failure. -/
def ofReading : Except Failure (Reading View) → Preview
  | .ok reading => ⟨some reading.value, reading.caveats.map Caveat.message⟩
  | .error failure => ⟨none, [failure.message]⟩

/-- The body of the first view in a source without comments. -/
def readBody (backend : Backend) (source : List Char) : Except Failure (Body Caveat) :=
  match backend.resolved with
  | .fallback => Passage.readBody source
  | _ => readStructure source

/-- The preview of a source. -/
def ofSource (backend : Backend) (source : String) : Preview :=
  ofReading ((readBody backend (Text.stripComments source.toList)).bind Body.view)

/-- A preview as JSON. -/
def encode (preview : Preview) (numbers : NumberEncoding) : Json :=
  .object
    [("root", (preview.root.map numbers.view).getD .null), ("errors", .strings preview.messages)]

end Preview

end ViewPreview
