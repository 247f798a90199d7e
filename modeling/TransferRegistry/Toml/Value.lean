/-!
# TOML values

`Toml` is a value of a TOML document. Whole numbers are of any size; other numbers and times are kept as they are
written, since a configuration holds none.
-/

namespace TransferRegistry

/-- A TOML value. -/
inductive Toml where
  | string (s : String)
  | integer (n : Int)
  | float (text : String)
  | boolean (b : Bool)
  | time (text : String)
  | array (elements : List Toml)
  | table (entries : List (String × Toml))
deriving Inhabited

end TransferRegistry
