import TransferRegistry.Crypto.Aes256

/-!
# AES-256 in Galois/Counter mode

Authenticated sealing (SP 800-38D) under a nonce of twelve bytes, without associated data: `Gcm.encrypt` appends a tag
of sixteen bytes to the enciphered text, `Gcm.decrypt?` gives the text back where the tag is right. Main statement:
`decrypt?_encrypt`, what was sealed opens to itself under the same key and nonce.
-/

namespace TransferRegistry.Crypto.Gcm

/-! ## The hash -/

/-- A polynomial over one bit, of degree below 128; the highest bit of `hi` is the constant term. -/
structure Field where
  hi : UInt64
  lo : UInt64
deriving DecidableEq

namespace Field

@[inline] def add (x y : Field) : Field := ⟨x.hi ^^^ y.hi, x.lo ^^^ y.lo⟩

/-- The product with `x`, modulo `x¹²⁸ + x⁷ + x² + x + 1`. -/
@[inline] def timesX (v : Field) : Field :=
  ⟨(v.hi >>> 1) ^^^ (if v.lo &&& 1 = 1 then 0xe100000000000000 else 0), (v.lo >>> 1) ||| (v.hi <<< 63)⟩

/-- The sum of `z` and the products of `v` that the `n` highest bits of `x` select. -/
def timesFrom (z v : Field) (x : UInt64) : Nat → Field × Field
  | 0 => (z, v)
  | n + 1 => timesFrom (if x >>> 63 = 1 then z.add v else z) v.timesX (x <<< 1) n

def mul (x y : Field) : Field :=
  let (z, v) := timesFrom ⟨0, 0⟩ y x.hi 64
  (timesFrom z v x.lo 64).1

/-- The polynomial of sixteen bytes, as four words. -/
def ofBlock (b : Aes.Block) : Field :=
  ⟨(b.c0.toUInt64 <<< 32) ||| b.c1.toUInt64, (b.c2.toUInt64 <<< 32) ||| b.c3.toUInt64⟩

def toBlock (x : Field) : Aes.Block :=
  ⟨(x.hi >>> 32).toUInt32, x.hi.toUInt32, (x.lo >>> 32).toUInt32, x.lo.toUInt32⟩

end Field

/-- The hash of a text under the point `h`: its blocks as coefficients, its length in bits as the last one. -/
def ghash (h : Field) (text : Bytes) : Field :=
  let blocks := chunks 15 text ++ [List.replicate 8 0 ++ bitLength64 text.length]
  blocks.foldl (fun y b => (y.add (.ofBlock (.ofBytes b))).mul h) ⟨0, 0⟩

/-! ## The stream -/

/-- The counter block of a nonce with the given counter. -/
def counterBlock (nonce : Bytes) (i : Nat) : Bytes := nonce ++ toBigEndian (UInt32.ofNat i)

/-- The stream that hides a text of `length` bytes: the cipher of the counter blocks from 2 on. -/
def stream (keys : List Aes.Block) (nonce : Bytes) (length : Nat) : Bytes :=
  (List.range' 2 ((length + 15) / 16)).flatMap fun i => Aes.encipher keys (counterBlock nonce i)

/-- Every block of the cipher has sixteen bytes. -/
theorem length_flatMap_encipher (keys : List Aes.Block) (f : Nat → Bytes) :
    ∀ is : List Nat, (is.flatMap fun i => Aes.encipher keys (f i)).length = 16 * is.length
  | [] => rfl
  | i :: is => by
    rw [List.flatMap_cons, List.length_append, Aes.length_encipher, length_flatMap_encipher keys f is,
      List.length_cons]
    omega

/-- The stream is as long as the text. -/
theorem le_length_stream (keys : List Aes.Block) (nonce : Bytes) (length : Nat) :
    length ≤ (stream keys nonce length).length := by
  rw [stream, length_flatMap_encipher, List.length_range']
  omega

def tag (keys : List Aes.Block) (nonce cipher : Bytes) : Bytes :=
  let h := Field.ofBlock (Aes.encipherBlock keys default)
  ((Aes.encipherBlock keys (.ofBytes (counterBlock nonce 1))).xor (ghash h cipher).toBlock).toBytes

@[simp] theorem length_tag (keys : List Aes.Block) (nonce cipher : Bytes) : (tag keys nonce cipher).length = 16 :=
  Aes.Block.length_toBytes _

/-! ## Sealing -/

/-- The enciphered text with its tag. -/
def encrypt (key nonce plain : Bytes) : Bytes :=
  let keys := Aes.expandKey key
  let cipher := xorBytes plain (stream keys nonce plain.length)
  cipher ++ tag keys nonce cipher

/-- The text of a sealed one, if the tag is the one its enciphered part has. -/
def decrypt? (key nonce text : Bytes) : Option Bytes :=
  let keys := Aes.expandKey key
  if text.length < 16 then none
  else
    let cipher := text.take (text.length - 16)
    if text.drop (text.length - 16) = tag keys nonce cipher then
      some (xorBytes cipher (stream keys nonce cipher.length))
    else none

/-- A sealed text is sixteen bytes longer than the plain one. -/
theorem length_encrypt (key nonce plain : Bytes) : (encrypt key nonce plain).length = plain.length + 16 := by
  have h := le_length_stream (Aes.expandKey key) nonce plain.length
  rw [encrypt, List.length_append, length_tag, length_xorBytes, Nat.min_eq_left h]

/-- What was sealed opens to itself under the same key and nonce. -/
theorem decrypt?_encrypt (key nonce plain : Bytes) : decrypt? key nonce (encrypt key nonce plain) = some plain := by
  have hs := le_length_stream (Aes.expandKey key) nonce plain.length
  have hc : (xorBytes plain (stream (Aes.expandKey key) nonce plain.length)).length = plain.length := by
    rw [length_xorBytes, Nat.min_eq_left hs]
  rw [decrypt?, length_encrypt, if_neg (Nat.not_lt.2 (Nat.le_add_left ..)), Nat.add_sub_cancel, encrypt,
    List.take_left' hc, List.drop_left' hc, if_pos rfl, hc, xorBytes_cancel _ _ hs]

end TransferRegistry.Crypto.Gcm
