import TransferRegistry.Toml.Value

/-!
# Decoding TOML

How values of the program are read from TOML. A record is a table, or an array of its fields in their order; in both
what is not known is left aside.
-/

namespace TransferRegistry.Toml

def string? : Toml → Option String
  | .string s => some s
  | _ => none

def boolean? : Toml → Option Bool
  | .boolean b => some b
  | _ => none

/-- A whole number of 64 bits without sign. -/
def uint64? : Toml → Option UInt64
  | .integer n => if 0 ≤ n ∧ n.toNat < UInt64.size then some (UInt64.ofNat n.toNat) else none
  | _ => none

def strings? : Toml → Option (List String)
  | .array vs => vs.mapM string?
  | _ => none

/-- The fields of a record: what stands for each name. -/
abbrev Fields := String → Option Toml

/-- The fields with the given names, in a table or an array. -/
def fields? (names : List String) : Toml → Option Fields
  | .table entries => some fun name => entries.lookup name
  | .array vs => some fun name => (names.zip vs).lookup name
  | _ => none

end TransferRegistry.Toml
