import TransferRegistry.Json.Decode

/-!
# Records and their JSON

`Json.Codec` is how a type of the program is written as JSON and read from it: `toJson` and `fromJson?`.
-/

namespace TransferRegistry.Json

/-- A type with a JSON form. -/
class Codec (α : Type) where
  toJson : α → Json
  fromJson? : Decoder α

export Codec (toJson fromJson?)

variable {α : Type}

/-- The form of a choice of names. -/
@[reducible] def Codec.ofNames (all : List α) (name : α → String) : Codec α where
  toJson a := ofString (name a)
  fromJson? := choice? (all.map fun a => (name a, a))

/-- The form of a value that may be missing: null stands for none. -/
def optionJson [Codec α] : Option α → Json
  | none => .null
  | some a => toJson a

instance [Codec α] : Codec (List α) where
  toJson as := .arr (as.map toJson)
  fromJson? := list? fromJson?

instance : Codec String where
  toJson := ofString
  fromJson? := text?

instance : Codec Bool where
  toJson := .bool
  fromJson? := bool?

instance : Codec UInt64 where
  toJson n := ofNat n.toNat
  fromJson? := uint64?

instance : Codec UInt32 where
  toJson n := ofNat n.toNat
  fromJson? := uint32?

instance : Codec Int64 where
  toJson n := ofInt n.toInt
  fromJson? := int64?

instance : Codec TransferRegistry.Number.Binary64 where
  toJson x := .num (.ofBinary64 x)
  fromJson? := binary64?

end TransferRegistry.Json
