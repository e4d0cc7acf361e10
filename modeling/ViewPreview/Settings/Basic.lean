import ViewPreview.Preview
import ViewPreview.Render.Options
import ViewPreview.Settings.Document

/-!
# Settings

The settings of a settings file: how sources are read and how views are rendered.  A setting that
the file does not give has its usual value, and keys that are no settings are passed over, but a
setting with a value of the wrong form makes the whole file invalid.
-/

namespace ViewPreview

/-- How sources are read and views are rendered. -/
structure Settings where
  backend : Backend := .automatic
  render : RenderOptions := {}
deriving Repr

namespace Settings

/-! ## Single settings -/

/-- The one name that a value chooses among others: a string, or a table with nothing but an empty
value under that name. -/
def chosenName? : Value → Option String
  | .string name => some name
  | .table [(name, .table [])] => some name
  | .table [(name, .array [])] => some name
  | _ => none

/-- The backend that a value names. -/
def backend? (value : Value) : Option Backend :=
  (chosenName? value).bind Backend.ofName?

/-- The theme that a value names. -/
def theme? (value : Value) : Option Theme :=
  (chosenName? value).bind fun name ↦ [Theme.light, Theme.dark].find? fun theme ↦ theme.name == name

/-- The length that a value gives. -/
def length? : Value → Option Float
  | .float x => some x
  | .integer n =>
    if Int64.minValue.toInt ≤ n && n < UInt64.size then
      some (Number.ofDecimal (n < 0) n.natAbs 0)
    else none
  | _ => none

/-- The number of rows that a value gives. -/
def count? : Value → Option Nat
  | .integer n => if 0 ≤ n && n < UInt64.size then some n.toNat else none
  | _ => none

/-! ## Groups of settings -/

/-- Read a setting that may be absent. -/
def readOr {α : Type} (usual : α) (read : Value → Option α) : Option Value → Option α
  | some value => read value
  | none => some usual

/-- The rendering options given one by one. -/
def renderOptions? (padding spacing rows theme : Option Value) : Option RenderOptions := do
  let usual : RenderOptions := {}
  some
    { defaultPadding := ← readOr usual.defaultPadding length? padding
      defaultSpacing := ← readOr usual.defaultSpacing length? spacing
      maxRepeat := ← readOr usual.maxRepeat count? rows
      theme := ← readOr usual.theme theme? theme }

/-- The rendering options that a value gives, by their names or in their order.  A time gives none
of them. -/
def render? : Value → Option RenderOptions
  | .table entries =>
    renderOptions? (entries.lookup "default_padding") (entries.lookup "default_spacing")
      (entries.lookup "max_repeat") (entries.lookup "theme")
  | .array items => renderOptions? items[0]? items[1]? items[2]? items[3]?
  | .time => some {}
  | _ => none

/-- The settings in the entries of a file. -/
def ofEntries? (entries : List (String × Value)) : Option Settings := do
  let usual : Settings := {}
  some
    { backend := ← readOr usual.backend backend? (entries.lookup "backend")
      render := ← readOr usual.render render? (entries.lookup "render") }

/-- The settings in the text of a file. -/
def ofText? (text : String) : Option Settings :=
  (readDocument? text).bind ofEntries?

end Settings

end ViewPreview
