import TransferRegistry.Json.Basic

/-!
# Decoding JSON

How values of the program are read from JSON. A record is an object with its members in any order, unknown ones left
aside and known ones given once, or else an array of them in their order; `Members.required`, `Members.defaulted` and
`Members.optional` then read one member. A choice of names is a string, or an object with the name as its one member
and null in it.
-/

namespace TransferRegistry.Json

/-- A reader of values. -/
abbrev Decoder (α : Type) := Json → Option α

/-! ## Plain values -/

def bool? : Decoder Bool
  | .bool b => some b
  | _ => none

def text? : Decoder String
  | .str s => s
  | _ => none

/-- A natural number of 64 bits. -/
def uint64? : Decoder UInt64
  | .num n => n.toUInt64?
  | _ => none

def uint32? : Decoder UInt32
  | .num n => n.toUInt32?
  | _ => none

/-- A whole number of 64 bits. -/
def int64? : Decoder Int64
  | .num n => n.toInt64?
  | _ => none

/-- A number of any form, rounded to binary64. -/
def binary64? : Decoder Number.Binary64
  | .num n => n.toBinary64?
  | _ => none

def list? {α : Type} (read : Decoder α) : Decoder (List α)
  | .arr es => es.mapM read
  | _ => none

/-- One of the named values. -/
def choice? {α : Type} (names : List (String × α)) : Decoder α
  | .str (some s) => names.lookup s
  | .obj [(some s, .null)] => names.lookup s
  | _ => none

/-! ## Records -/

/-- The members of a record: what stands for a name, and whether they came by their order. -/
structure Members where
  positional : Bool
  get? : String → Option Json

/-- The values of the members called `name`. -/
def valuesOf (name : String) (members : List (Text × Json)) : List Json :=
  members.filterMap fun m => if m.1 = some name then some m.2 else none

/-- The members with the given names, in an object or an array. -/
def readMembers? (names : List String) : Json → Option Members
  | .obj ms =>
    if ms.all (fun m => m.1.isSome) && names.all (fun name => (valuesOf name ms).length ≤ 1) then
      some ⟨false, fun name => (valuesOf name ms).head?⟩
    else none
  | .arr es => if es.length ≤ names.length then some ⟨true, fun name => (names.zip es).lookup name⟩ else none
  | _ => none

namespace Members

variable {α : Type}

def required (ms : Members) (name : String) (read : Decoder α) : Option α := (ms.get? name).bind read

/-- A member with a value of its own where it is missing. -/
def defaulted (ms : Members) (name : String) (read : Decoder α) (default : α) : Option α :=
  match ms.get? name with
  | none => some default
  | some v => read v

/-- A member that may be null, or be missing from an object. -/
def optional (ms : Members) (name : String) (read : Decoder α) : Option (Option α) :=
  match ms.get? name with
  | none => if ms.positional then none else some none
  | some .null => some none
  | some v => (read v).map some

end Members

end TransferRegistry.Json
