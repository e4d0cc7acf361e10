import ViewPreview.Text.Occurrence

/-!
# Symbols

Glyphs that stand in for named symbols.  A symbol's name consists of components separated by dots;
a name that is not in the table is shown by the glyph of its longest beginning that is.
-/

namespace ViewPreview.Style

open ViewPreview.Text (splitAll)

/-- The symbols that have a glyph. -/
def glyphs : List (String × String) :=
  [("star.fill", "★"), ("star", "☆"), ("heart.fill", "♥"), ("heart", "♡"),
    ("house", "⌂"), ("gear", "⚙"), ("gearshape", "⚙"), ("person", "👤"),
    ("person.2", "👥"), ("magnifyingglass", "🔍"), ("plus", "+"), ("minus", "−"),
    ("xmark", "✕"), ("checkmark", "✓"), ("trash", "🗑"), ("bell", "🔔"),
    ("envelope", "✉"), ("paperplane", "➤"), ("chevron.right", "›"),
    ("chevron.left", "‹"), ("chevron.down", "⌄"), ("chevron.up", "⌃"),
    ("arrow.right", "→"), ("arrow.left", "←"), ("arrow.up", "↑"),
    ("arrow.down", "↓"), ("info", "ⓘ"), ("exclamationmark.triangle", "⚠"),
    ("photo", "🖼"), ("folder", "📁"), ("doc", "📄"), ("calendar", "📅"), ("clock", "🕒"),
    ("globe", "🌐"), ("sun.max", "☀"), ("moon", "☾"), ("cloud", "☁"),
    ("bolt", "⚡"), ("play", "▶"), ("pause", "⏸"),
    ("square.and.arrow.up", "⇪"), ("cart", "🛒"), ("lock", "🔒"), ("bookmark", "🔖"),
    ("flag", "⚑"), ("pencil", "✎"), ("wifi", "📶"), ("circle", "○"),
    ("square", "□")]

/-- The box shown for a symbol without a glyph. -/
def missingGlyph : String :=
  "◻"

/-- A name and its shorter beginnings, each a run of whole components, longest first. -/
def beginnings (name : String) : List String :=
  let components := splitAll '.' name.toList
  (List.range components.length).reverse.map fun last ↦
    String.ofList (['.'].intercalate (components.take (last + 1)))

/-- The glyph that stands in for a symbol. -/
def symbol (name : String) : String :=
  ((beginnings name).findSome? fun beginning ↦ glyphs.lookup beginning).getD missingGlyph

end ViewPreview.Style
