import TransferRegistry.Json.Decode
import TransferRegistry.Text.Quoted
import TransferRegistry.Text.Utf8

/-!
# Item ids

* `ItemId`: the 32 bytes that name an item, ordered byte by byte; `ItemId.shard` is the first of them.
* `ItemId.text` writes 64 lower-case hexadecimal digits, `ItemId.parse` reads 64 digits of either case and tells what
  is wrong with any other text.
* `ItemId.ofField` reads the text that stands for an id in a record.
-/

namespace TransferRegistry

open Crypto (Bytes)
open Text (utf8 hexValue? quoted quotedChar)

/-- The name of an item: 32 bytes. -/
structure ItemId where
  bytes : Vector UInt8 32
deriving DecidableEq

namespace ItemId

instance : Inhabited ItemId := ⟨⟨Vector.replicate 32 0⟩⟩

/-- Ids are ordered by their first byte, then by their second one, and so on. -/
instance : Ord ItemId := ⟨compareOn bytes⟩

instance : Std.TransOrd ItemId := inferInstanceAs (Std.TransCmp (compareOn bytes))

instance : Std.LawfulEqOrd ItemId where
  eq_of_compare {a b} h := by
    have h : compare a.bytes b.bytes = .eq := h
    cases a
    cases b
    exact congrArg ItemId.mk (Std.LawfulEqOrd.eq_of_compare h)

/-- The shard that holds the id: the number of its first byte. -/
def shard (id : ItemId) : Fin 256 := id.bytes[0].toFin

def text (id : ItemId) : String := Text.Hex.encode id.bytes.toList

instance : ToString ItemId := ⟨text⟩

/-! ## Reading -/

inductive ParseError where
  | oddLength
  | wrongLength
  /-- The first byte that is no digit, and how many bytes are before it. -/
  | badDigit (byte : UInt8) (offset : Nat)
deriving DecidableEq

/-- The wording of a fault; a bad byte is shown as the character of its number. -/
def ParseError.message : ParseError → String
  | oddLength => "Odd number of digits"
  | wrongLength => "Invalid string length"
  | badDigit byte offset => s!"Invalid character {quotedChar (Char.ofNat byte.toNat)} at position {offset}"

def digitAt (offset : Nat) (byte : UInt8) : Except ParseError Nat :=
  match hexValue? (Char.ofNat byte.toNat) with
  | some n => .ok n
  | none => .error (.badDigit byte offset)

/-- The bytes that pairs of digits from an offset on stand for. -/
def readPairs (offset : Nat) : Bytes → Except ParseError Bytes
  | a :: b :: rest => do
    let x ← digitAt offset a
    let y ← digitAt (offset + 1) b
    let bytes ← readPairs (offset + 2) rest
    return UInt8.ofNat (16 * x + y) :: bytes
  | _ => .ok []

def parse (s : String) : Except ParseError ItemId := do
  let digits := utf8 s
  if digits.length % 2 = 1 then throw .oddLength
  if digits.length ≠ 64 then throw .wrongLength
  let bytes ← readPairs 0 digits
  if h : bytes.toArray.size = 32 then return ⟨⟨bytes.toArray, h⟩⟩ else throw .wrongLength

/-! ## In records -/

inductive FieldError where
  | length
  | digits
deriving DecidableEq

/-- The wording of a fault of a field with the text `s`. -/
def FieldError.message (s : String) : FieldError → String
  | length => s!"invalid value: string {quoted s}, expected expected a 64 character long string"
  | digits => s!"invalid value: string {quoted s}, expected expected a hexadecimal string"

def ofField (s : String) : Except FieldError ItemId :=
  if s.utf8ByteSize ≠ 64 then .error .length
  else
    match parse s with
    | .ok id => .ok id
    | .error _ => .error .digits

end ItemId

end TransferRegistry
