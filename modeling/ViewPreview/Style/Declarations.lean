import ViewPreview.Number.Layout

/-!
# Inline Styles

An inline style is a list of declarations in the order they were made, where a later declaration of
a property takes precedence, together with the filter functions in effect.  A filter replaces an
earlier one of the same name, and all filters are written as a single declaration at the end.
-/

namespace ViewPreview.Style

/-- A property with its value. -/
structure Declaration where
  property : String
  value : String
deriving Repr, DecidableEq

/-- A declaration as it is written. -/
def Declaration.write (declaration : Declaration) : String :=
  declaration.property ++ ": " ++ declaration.value

/-- A filter function applied to an argument. -/
structure Filter where
  name : String
  argument : String
deriving Repr, DecidableEq

/-- A filter as it is written. -/
def Filter.write (filter : Filter) : String :=
  filter.name ++ "(" ++ filter.argument ++ ")"

/-- The declarations and filters of one view. -/
structure InlineStyle where
  declarations : List Declaration := []
  filters : List Filter := []
deriving Repr, DecidableEq

namespace InlineStyle

/-- The style with a declaration added at the end. -/
def push (style : InlineStyle) (property value : String) : InlineStyle :=
  { style with declarations := style.declarations ++ [⟨property, value⟩] }

/-- The style with the declarations of a list of properties and values added at the end. -/
def pushAll (style : InlineStyle) (declarations : List (String × String)) : InlineStyle :=
  { style with
    declarations := style.declarations ++ declarations.map fun entry ↦ ⟨entry.1, entry.2⟩ }

/-- A length in pixels. -/
def pixels (length : Float) : String :=
  Number.styleText length ++ "px"

/-- The style with a length in pixels declared at the end. -/
def pushPixels (style : InlineStyle) (property : String) (length : Float) : InlineStyle :=
  style.push property (pixels length)

/-- The style with a filter added after the filters of other names, in place of an earlier one of
the same name. -/
def filter (style : InlineStyle) (name argument : String) : InlineStyle :=
  { style with
    filters := style.filters.filter (fun existing ↦ existing.name != name) ++ [⟨name, argument⟩] }

/-- Whether a style says nothing. -/
def isEmpty (style : InlineStyle) : Bool :=
  style.declarations.isEmpty && style.filters.isEmpty

/-- All declarations of a style, the filters among them as one declaration. -/
def allDeclarations (style : InlineStyle) : List Declaration :=
  style.declarations ++
    if style.filters.isEmpty then []
    else [⟨"filter", " ".intercalate (style.filters.map Filter.write)⟩]

/-- The text of a style. -/
def text (style : InlineStyle) : String :=
  "; ".intercalate (style.allDeclarations.map Declaration.write)

end InlineStyle

end ViewPreview.Style
