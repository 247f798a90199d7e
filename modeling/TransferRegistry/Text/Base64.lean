import TransferRegistry.Crypto.Words

/-!
# Base64

RFC 4648. `Base64.encode` writes with the standard alphabet and padding, `Base64.decode?` reads just what it writes:
padding is required, bits that stand for no byte are zero, and nothing else is in the text. `Base64.encodeUrl` writes
with the alphabet that is safe in addresses and without padding.
-/

namespace TransferRegistry.Text.Base64

open Crypto (Bytes)

/-- The characters for 62 and 63. -/
structure Alphabet where
  char62 : Char
  char63 : Char

def standard : Alphabet := ⟨'+', '/'⟩
def urlSafe : Alphabet := ⟨'-', '_'⟩

/-- The character of a number below 64. -/
def Alphabet.char (a : Alphabet) (n : Nat) : Char :=
  if n < 26 then Char.ofNat (65 + n)
  else if n < 52 then Char.ofNat (71 + n)
  else if n < 62 then Char.ofNat (n - 4)
  else if n = 62 then a.char62
  else a.char63

/-- The number of a character of the standard alphabet. -/
def value? (c : Char) : Option Nat :=
  if 'A' ≤ c ∧ c ≤ 'Z' then some (c.toNat - 65)
  else if 'a' ≤ c ∧ c ≤ 'z' then some (c.toNat - 71)
  else if '0' ≤ c ∧ c ≤ '9' then some (c.toNat + 4)
  else if c = '+' then some 62
  else if c = '/' then some 63
  else none

/-- A character of the alphabet has the number it was written for. -/
theorem value?_char {n : Nat} (h : n < 64) : value? (standard.char n) = some n := by
  have all : ∀ m < 64, value? (standard.char m) = some m := by decide
  exact all n h

/-- The characters of a byte string, four for three bytes, with `pad` to complete the last four. -/
def chars (alphabet : Alphabet) (pad : List Char) : Bytes → List Char
  | [] => []
  | [a] =>
    alphabet.char (a.toNat / 4) :: alphabet.char (a.toNat % 4 * 16) :: (pad ++ pad)
  | [a, b] =>
    alphabet.char (a.toNat / 4) :: alphabet.char (a.toNat % 4 * 16 + b.toNat / 16)
      :: alphabet.char (b.toNat % 16 * 4) :: pad
  | a :: b :: c :: rest =>
    alphabet.char (a.toNat / 4) :: alphabet.char (a.toNat % 4 * 16 + b.toNat / 16)
      :: alphabet.char (b.toNat % 16 * 4 + c.toNat / 64) :: alphabet.char (c.toNat % 64) :: chars alphabet pad rest

def encode (b : Bytes) : String := String.ofList (chars standard ['='] b)

/-- The text of a byte string that is safe in addresses. -/
def encodeUrl (b : Bytes) : String := String.ofList (chars urlSafe [] b)

/-- The byte string of characters in fours. -/
def bytes? : List Char → Option Bytes
  | [] => some []
  | [a, b, '=', '='] => do
    let x ← value? a
    let y ← value? b
    if y % 16 = 0 then return [UInt8.ofNat (x * 4 + y / 16)] else none
  | [a, b, c, '='] => do
    let x ← value? a
    let y ← value? b
    let z ← value? c
    if z % 4 = 0 then return [UInt8.ofNat (x * 4 + y / 16), UInt8.ofNat (y % 16 * 16 + z / 4)] else none
  | a :: b :: c :: d :: rest => do
    let x ← value? a
    let y ← value? b
    let z ← value? c
    let w ← value? d
    let bytes ← bytes? rest
    return UInt8.ofNat (x * 4 + y / 16) :: UInt8.ofNat (y % 16 * 16 + z / 4) :: UInt8.ofNat (z % 4 * 64 + w) :: bytes
  | _ => none

def decode? (s : String) : Option Bytes := bytes? s.toList

end TransferRegistry.Text.Base64
