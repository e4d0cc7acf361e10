import ViewPreview.Text.Occurrence
import ViewPreview.View.Basic

/-!
# Substitution in Views

Applying a function to every text property and every text argument of a view and of all views inside
it: its children, the views in its properties, and the views its modifiers carry.  Names, tokens and
lists stay as they are.  Replacing one text by another everywhere is the case used to fill in the
rows of a repetition.
-/

namespace ViewPreview

mutual

/-- Apply a function to the texts of a view and of every view inside it. -/
def View.mapTexts (f : String → String) : View → View
  | ⟨kind, properties, modifiers, children⟩ =>
    ⟨kind, mapTextsProperties f properties, mapTextsModifiers f modifiers,
      mapTextsViews f children⟩

/-- Apply a function to the texts of each view of a list. -/
def mapTextsViews (f : String → String) : List View → List View
  | [] => []
  | view :: views => view.mapTexts f :: mapTextsViews f views

/-- Apply a function to the texts of each property of a list. -/
def mapTextsProperties (f : String → String) :
    List (String × PropertyValue View) → List (String × PropertyValue View)
  | [] => []
  | property :: properties => mapTextsProperty f property :: mapTextsProperties f properties

/-- Apply a function to the text of a property, leaving its key. -/
def mapTextsProperty (f : String → String) :
    String × PropertyValue View → String × PropertyValue View
  | (key, value) => (key, mapTextsValue f value)

/-- Apply a function to a property value that is a text, and inside one that is a view. -/
def mapTextsValue (f : String → String) : PropertyValue View → PropertyValue View
  | .text value => .text (f value)
  | .view value => .view (value.mapTexts f)
  | .number value => .number value
  | .bool value => .bool value
  | .token value => .token value
  | .list items => .list items
  | .range value => .range value

/-- Apply a function to the texts of each modifier of a chain. -/
def mapTextsModifiers (f : String → String) : List (Modifier View) → List (Modifier View)
  | [] => []
  | modifier :: modifiers => mapTextsModifier f modifier :: mapTextsModifiers f modifiers

/-- Apply a function to the texts of a modifier's arguments, leaving its name. -/
def mapTextsModifier (f : String → String) : Modifier View → Modifier View
  | ⟨name, arguments⟩ => ⟨name, mapTextsArguments f arguments⟩

/-- Apply a function to arguments that are a text, and inside the view that arguments carry. -/
def mapTextsArguments (f : String → String) : ModifierArguments View → ModifierArguments View
  | .text value => .text (f value)
  | .content value => .content (mapTextsContent f value)
  | .none => .none
  | .flag value => .flag value
  | .number value => .number value
  | .token value => .token value
  | .padding value => .padding value
  | .paint value => .paint value
  | .stroke value => .stroke value
  | .border value => .border value
  | .font value => .font value
  | .frame value => .frame value
  | .point value => .point value
  | .aspectRatio value => .aspectRatio value
  | .angle value => .angle value
  | .shadow value => .shadow value
  | .clipShape value => .clipShape value

/-- Apply a function inside the view that a modifier carries. -/
def mapTextsContent (f : String → String) : Content View → Content View
  | ⟨view, alignment⟩ => ⟨view.mapTexts f, alignment⟩

end

/-- Replace every occurrence of `needle` in the texts of a view and of every view inside it. -/
def View.replaceText (needle replacement : String) (view : View) : View :=
  view.mapTexts (Text.replaceString needle replacement)

end ViewPreview
