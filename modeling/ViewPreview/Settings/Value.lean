/-!
# Values of a Settings File

The values that a settings file in the TOML notation may hold.  A time is only told apart from the
other values, since no setting is one.
-/

namespace ViewPreview.Settings

/-- A value of a settings file. -/
inductive Value where
  | string (text : String)
  | integer (value : Int)
  | float (value : Float)
  | bool (value : Bool)
  | time
  | array (items : List Value)
  | table (entries : List (String × Value))
deriving Repr, Inhabited

end ViewPreview.Settings
