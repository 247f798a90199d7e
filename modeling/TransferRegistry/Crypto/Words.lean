/-!
# Bytes and 32-bit words

`rotl` and `rotr` turn a word; `bigEndian`, `littleEndian` read four bytes as one, `toBigEndian` and
`toLittleEndian` write it; `xorBytes` adds two byte strings without carry, as far as the shorter one reaches, and
`xorBytes_cancel` says that adding the same string twice gives the text back.
-/

namespace TransferRegistry.Crypto

abbrev Bytes := List UInt8

/-! ## Words -/

/-- Turns a word left by `n` bits, `0 < n < 32`. -/
@[inline] def rotl (x n : UInt32) : UInt32 := (x <<< n) ||| (x >>> (32 - n))

/-- Turns a word right by `n` bits, `0 < n < 32`. -/
@[inline] def rotr (x n : UInt32) : UInt32 := (x >>> n) ||| (x <<< (32 - n))

/-- The word of four bytes, the first one the most significant. -/
def bigEndian (a b c d : UInt8) : UInt32 :=
  (a.toUInt32 <<< 24) ||| (b.toUInt32 <<< 16) ||| (c.toUInt32 <<< 8) ||| d.toUInt32

/-- The word of four bytes, the first one the least significant. -/
def littleEndian (a b c d : UInt8) : UInt32 := bigEndian d c b a

/-- The bytes of a word, the most significant first. -/
def toBigEndian (x : UInt32) : Bytes :=
  [(x >>> 24).toUInt8, (x >>> 16).toUInt8, (x >>> 8).toUInt8, x.toUInt8]

/-- The bytes of a word, the least significant first. -/
def toLittleEndian (x : UInt32) : Bytes := (toBigEndian x).reverse

/-- The words of a byte string, read with `word`; up to three bytes at the end that make no word are left out. -/
def toWords (word : UInt8 → UInt8 → UInt8 → UInt8 → UInt32) : Bytes → List UInt32
  | a :: b :: c :: d :: rest => word a b c d :: toWords word rest
  | _ => []

/-! ## Byte strings -/

/-- The bytes of a length in bits, as the eight bytes both SHA-256 and GCM append. -/
def bitLength64 (bytes : Nat) : Bytes :=
  (List.range 8).map fun i => UInt8.ofNat ((bytes * 8) >>> (8 * (7 - i)))

/-- The addition of two byte strings without carry, as long as the shorter one. -/
def xorBytes : Bytes → Bytes → Bytes := List.zipWith (· ^^^ ·)

@[simp] theorem length_xorBytes (a b : Bytes) : (xorBytes a b).length = min a.length b.length := by
  simp [xorBytes]

/-- Adding one string twice gives the text back, where it is long enough. -/
theorem xorBytes_cancel : ∀ (text key : Bytes), text.length ≤ key.length → xorBytes (xorBytes text key) key = text
  | [], _, _ => by simp [xorBytes]
  | _ :: _, [], h => by simp at h
  | t :: ts, k :: ks, h => by
    have ih := xorBytes_cancel ts ks (by simpa using h)
    simp only [xorBytes, List.zipWith_cons_cons, List.cons.injEq] at ih ⊢
    exact ⟨by rw [UInt8.xor_assoc, UInt8.xor_self, UInt8.xor_zero], ih⟩

/-- The pieces of a string that are `n + 1` long, but for the last, which holds what is left. -/
def chunks (n : Nat) (s : Bytes) : List Bytes :=
  match s with
  | [] => []
  | b :: rest => (b :: rest.take n) :: chunks n (rest.drop n)
termination_by s.length
decreasing_by rw [List.length_drop, List.length_cons]; omega

end TransferRegistry.Crypto
