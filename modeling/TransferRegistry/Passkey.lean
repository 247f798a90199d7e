import TransferRegistry.Entropy
import TransferRegistry.Text.Base64
import TransferRegistry.Text.CharClass
import TransferRegistry.Text.Utf8

/-!
# Passkeys

`Passkey.generate` draws a new passkey, `Passkey.strong` tells whether one is long and mixed enough, and
`Passkey.same` compares two in a time that does not tell where they differ.
-/

namespace TransferRegistry.Passkey

open Text (utf8 isAlphanumeric)

/-- The bytes of a strong passkey: between the least and the greatest length. -/
structure Length where
  least : Nat
  greatest : Nat

/-- From 12 to 1024 bytes. -/
def length : Length := ⟨12, 1024⟩

def randomBytes : Nat := 32

def generate (e : Entropy) : String × Entropy :=
  let (bytes, e) := e.take randomBytes
  (Text.Base64.encodeUrl bytes, e)

/-- Which kinds of characters a passkey has: small and capital letters and digits of ASCII, and characters that are
no letters or numbers of any script. -/
def kinds (s : String) : List Bool :=
  let cs := s.toList
  [cs.any Char.isLower, cs.any Char.isUpper, cs.any Char.isDigit, cs.any fun c => !isAlphanumeric c]

/-- A strong passkey is long enough, not too long, and has two kinds of characters. -/
def strong (s : String) : Bool :=
  length.least ≤ s.utf8ByteSize && s.utf8ByteSize ≤ length.greatest && 2 ≤ ((kinds s).filter id).length

/-- Whether two texts are the same, by gathering the differences of all their bytes. -/
def same (a b : String) : Bool :=
  a.utf8ByteSize == b.utf8ByteSize && (List.zipWith (· ^^^ ·) (utf8 a) (utf8 b)).foldl (· ||| ·) 0 == 0

end TransferRegistry.Passkey
