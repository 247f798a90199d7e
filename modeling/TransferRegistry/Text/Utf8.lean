import TransferRegistry.Crypto.Words

/-!
# UTF-8

`utf8` is the byte string of a text and `ofUtf8?` reads one back, or refuses it; `ofUtf8Lossy` always reads, with a
replacement character for each longest piece that starts a character and does not complete it.
-/

namespace TransferRegistry.Text

open Crypto (Bytes)

def utf8 (s : String) : Bytes := s.toUTF8.data.toList

def ofUtf8? (b : Bytes) : Option String := String.fromUTF8? ⟨b.toArray⟩

/-- Reading back what was written gives the text. -/
theorem ofUtf8?_utf8 (s : String) : ofUtf8? (utf8 s) = some s := by
  have h : (⟨(utf8 s).toArray⟩ : ByteArray) = s.toUTF8 := by simp [utf8]
  have valid : s.toUTF8.IsValidUTF8 := s.isValidUTF8
  rw [ofUtf8?, h, String.fromUTF8?, dif_pos valid]
  rfl

/-- What stands for bytes that are no character. -/
def replacement : Char := '\uFFFD'

/-- How a first byte goes on: the bounds of the second byte, how many bytes follow in all, and the bits it gives. -/
def leadByte? (b : UInt8) : Option (UInt8 × UInt8 × Nat × Nat) :=
  let n := b.toNat
  if 0xC2 ≤ n ∧ n ≤ 0xDF then some (0x80, 0xBF, 1, n % 32)
  else if n = 0xE0 then some (0xA0, 0xBF, 2, 0)
  else if n = 0xED then some (0x80, 0x9F, 2, 13)
  else if 0xE1 ≤ n ∧ n ≤ 0xEF then some (0x80, 0xBF, 2, n % 16)
  else if n = 0xF0 then some (0x90, 0xBF, 3, 0)
  else if n = 0xF4 then some (0x80, 0x8F, 3, 4)
  else if 0xF1 ≤ n ∧ n ≤ 0xF3 then some (0x80, 0xBF, 3, n % 8)
  else none

/-- Takes up to `count` bytes after a first one, the next of them within the bounds; gives the bits they add up to
and how many are still missing. -/
def takeRest (low high : UInt8) (bits : Nat) : Nat → Bytes → Nat × Nat × Bytes
  | 0, rest => (bits, 0, rest)
  | count + 1, [] => (bits, count + 1, [])
  | count + 1, b :: rest =>
    if low ≤ b ∧ b ≤ high then takeRest 0x80 0xBF (bits * 64 + b.toNat % 64) count rest
    else (bits, count + 1, b :: rest)

/-- What is left is no longer than what was there. -/
theorem length_takeRest_le (low high : UInt8) (bits : Nat) :
    ∀ (count : Nat) (b : Bytes), (takeRest low high bits count b).2.2.length ≤ b.length
  | 0, _ => Nat.le_refl _
  | _ + 1, [] => Nat.le_refl _
  | count + 1, b :: rest => by
    rw [takeRest]
    split
    · exact Nat.le_succ_of_le (length_takeRest_le _ _ _ count rest)
    · exact Nat.le_refl _

/-- The characters of a byte string, with replacements. -/
def lossyChars : Bytes → List Char
  | [] => []
  | b :: rest =>
    if b < 0x80 then Char.ofNat b.toNat :: lossyChars rest
    else
      match leadByte? b with
      | none => replacement :: lossyChars rest
      | some (low, high, count, bits) =>
        let next := takeRest low high bits count rest
        (if next.2.1 = 0 then Char.ofNat next.1 else replacement) :: lossyChars next.2.2
termination_by b => b.length
decreasing_by
  · simp
  · simp
  · exact Nat.lt_succ_of_le (length_takeRest_le _ _ _ _ _)

def ofUtf8Lossy (b : Bytes) : String := String.ofList (lossyChars b)

end TransferRegistry.Text
