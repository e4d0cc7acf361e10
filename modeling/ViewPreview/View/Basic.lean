import ViewPreview.View.Kind
import ViewPreview.View.Modifier
import ViewPreview.View.Range

/-!
# Views

The tree that reading a source produces and rendering consumes.  A view has a kind, properties in
increasing order of their keys, modifiers in the order of their chain, and children in source order.
Properties and modifiers may hold views of their own.
-/

namespace ViewPreview

/-- A typed property value. -/
inductive PropertyValue (V : Type) where
  | number (value : Float)
  | bool (value : Bool)
  | text (value : String)
  /-- An enumeration case such as `leading` from `.leading`. -/
  | token (value : String)
  | list (items : List String)
  | range (value : IntegerRange)
  | view (value : V)
deriving Repr, DecidableEq

/-- A view with everything attached to it. -/
structure View where
  kind : Kind
  properties : List (String × PropertyValue View)
  modifiers : List (Modifier View)
  children : List View
deriving Repr

instance : Inhabited View :=
  ⟨⟨.custom, [], [], []⟩⟩

/-- Put a value under a key of a list of entries in increasing order of keys, replacing the value
that is there. -/
def setEntry {α : Type} (key : String) (value : α) : List (String × α) → List (String × α)
  | [] => [(key, value)]
  | entry :: entries =>
    if key < entry.1 then (key, value) :: entry :: entries
    else if key = entry.1 then (key, value) :: entries
    else entry :: setEntry key value entries

namespace View

/-- A view of a kind with nothing attached. -/
def ofKind (kind : Kind) : View :=
  ⟨kind, [], [], []⟩

/-- The view with a property set. -/
def set (view : View) (key : String) (value : PropertyValue View) : View :=
  { view with properties := setEntry key value view.properties }

/-- The view with a property set when there is a value for it. -/
def set? (view : View) (key : String) (value : Option (PropertyValue View)) : View :=
  match value with
  | some value => view.set key value
  | none => view

/-- The view with a modifier added at the end of its chain. -/
def addModifier (view : View) (modifier : Modifier View) : View :=
  { view with modifiers := view.modifiers ++ [modifier] }

/-- The view with children added after those it has. -/
def addChildren (view : View) (children : List View) : View :=
  { view with children := view.children ++ children }

/-- A view of a kind around some children. -/
def around (kind : Kind) (children : List View) : View :=
  (ofKind kind).addChildren children

/-- A text view. -/
def ofText (content : String) : View :=
  (ofKind .text).set "text" (.text content)

/-- What stands for a custom view that cannot be expanded: a group around a text that shows its name
in angle brackets. -/
def placeholder (name : String) : View :=
  ((ofKind .group).set "placeholder" (.text name)).addChildren [ofText ("<" ++ name ++ ">")]

/-- The value of a property. -/
def property? (view : View) (key : String) : Option (PropertyValue View) :=
  view.properties.lookup key

/-- A property that is a number. -/
def number? (view : View) (key : String) : Option Float :=
  match view.property? key with
  | some (.number value) => some value
  | _ => none

/-- A property that is a text or a token. -/
def string? (view : View) (key : String) : Option String :=
  match view.property? key with
  | some (.text value) => some value
  | some (.token value) => some value
  | _ => none

/-- A property that is a truth value. -/
def bool? (view : View) (key : String) : Option Bool :=
  match view.property? key with
  | some (.bool value) => some value
  | _ => none

/-- A property that is a list of texts. -/
def list? (view : View) (key : String) : Option (List String) :=
  match view.property? key with
  | some (.list items) => some items
  | _ => none

/-- A property that is a range. -/
def range? (view : View) (key : String) : Option IntegerRange :=
  match view.property? key with
  | some (.range value) => some value
  | _ => none

/-- A property that is a view. -/
def view? (view : View) (key : String) : Option View :=
  match view.property? key with
  | some (.view value) => some value
  | _ => none

/-- The last modifier with a name, which is the one that takes effect. -/
def modifier? (view : View) (name : String) : Option (Modifier View) :=
  view.modifiers.reverse.find? fun modifier ↦ modifier.name == name

/-- The token of the last modifier with a name. -/
def modifierToken? (view : View) (name : String) : Option String :=
  match view.modifier? name with
  | some ⟨_, .token value⟩ => some value
  | _ => none

/-- One view in place of several: none stands for nothing, one for itself, and more are put in a
container. -/
def single? (container : Kind) : List View → Option View
  | [] => none
  | [view] => some view
  | views => some (around container views)

end View

end ViewPreview
