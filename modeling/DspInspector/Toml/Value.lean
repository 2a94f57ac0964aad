/-!
# TOML values
-/

namespace DspInspector.Toml

/-- A value. Floating numbers and points in time are kept as they are written. -/
inductive Value where
  | string (text : String)
  | integer (value : Int)
  | float (text : String)
  | boolean (value : Bool)
  | moment (text : String)
  | array (items : List Value)
  /-- Members in the order in which they first appear, each name once. -/
  | table (members : List (String × Value))

end DspInspector.Toml
