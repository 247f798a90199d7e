import TransferRegistry.Crypto.Words

/-!
# Hexadecimal

`hexDigit` writes a number below 16, `hexValue?` reads a digit of either case, and `hexValue?_hexDigit` ties them;
`Hex.encode` and `Hex.decode?` do so for byte strings, two digits for a byte.
-/

namespace TransferRegistry.Text

open Crypto (Bytes)

/-- The lower-case digit of a number below 16. -/
def hexDigit (n : Nat) : Char := if n < 10 then Char.ofNat (48 + n) else Char.ofNat (87 + n)

/-- The value of a digit, of either case. -/
def hexValue? (c : Char) : Option Nat :=
  if '0' ≤ c ∧ c ≤ '9' then some (c.toNat - 48)
  else if 'a' ≤ c ∧ c ≤ 'f' then some (c.toNat - 87)
  else if 'A' ≤ c ∧ c ≤ 'F' then some (c.toNat - 55)
  else none

/-- A digit has the value it was written for. -/
theorem hexValue?_hexDigit {n : Nat} (h : n < 16) : hexValue? (hexDigit n) = some n := by
  have all : ∀ m < 16, hexValue? (hexDigit m) = some m := by decide
  exact all n h

/-- The digits of a number without leading zeros; `0` for zero. -/
def hexDigits (n : Nat) : List Char := (Nat.toDigits 16 n)

def hexByte (b : UInt8) : List Char := [hexDigit (b.toNat / 16), hexDigit (b.toNat % 16)]

def Hex.encode (b : Bytes) : String := String.ofList (b.flatMap hexByte)

/-- The bytes that pairs of digits stand for. -/
def hexPairs? : List Char → Option Bytes
  | [] => some []
  | a :: b :: rest => do
    let x ← hexValue? a
    let y ← hexValue? b
    let bytes ← hexPairs? rest
    return UInt8.ofNat (16 * x + y) :: bytes
  | _ => none

def Hex.decode? (s : String) : Option Bytes := hexPairs? s.toList

end TransferRegistry.Text
