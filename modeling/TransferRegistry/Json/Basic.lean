import TransferRegistry.Json.Number

/-!
# JSON values

`Json` is a value as a text writes it: members in their order, also repeated ones, numbers by their digits, and
strings that may have no text, since an escape can name half of a surrogate pair.
-/

namespace TransferRegistry

namespace Json

/-- What a string reads as: its text, or nothing where an escape in it is half of a surrogate pair. -/
abbrev Text := Option String

end Json

inductive Json where
  | null
  | bool (b : Bool)
  | num (n : Json.Number)
  | str (s : Json.Text)
  | arr (elements : List Json)
  | obj (members : List (Json.Text × Json))
deriving Inhabited

namespace Json

/-- The value of a text. -/
def ofString (s : String) : Json := .str (some s)

def ofNat (n : Nat) : Json := .num (.ofNat n)

def ofInt (n : Int) : Json := .num (.ofInt n)

/-- An object of named members. -/
def record (members : List (String × Json)) : Json := .obj (members.map fun m => (some m.1, m.2))

end Json

end TransferRegistry
