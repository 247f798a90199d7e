import TransferRegistry.Crypto.Words

/-!
# SHA-256

`sha256` is the hash of FIPS 180-4 on byte strings: `padded` completes the text to whole blocks of 64 bytes,
`schedule` spreads a block over 64 words and `compress` works it into the eight words of `Hash`.
-/

namespace TransferRegistry.Crypto

/-- The eight words that a hash carries from block to block. -/
structure Hash where
  a : UInt32
  b : UInt32
  c : UInt32
  d : UInt32
  e : UInt32
  f : UInt32
  g : UInt32
  h : UInt32

namespace Hash

/-- The first 32 bits of the fractional parts of the square roots of the first eight primes. -/
def initial : Hash :=
  ⟨0x6a09e667, 0xbb67ae85, 0x3c6ef372, 0xa54ff53a, 0x510e527f, 0x9b05688c, 0x1f83d9ab, 0x5be0cd19⟩

/-- Word by word. -/
def add (x y : Hash) : Hash :=
  ⟨x.a + y.a, x.b + y.b, x.c + y.c, x.d + y.d, x.e + y.e, x.f + y.f, x.g + y.g, x.h + y.h⟩

/-- One round with the round's constant and message word added together. -/
def round (s : Hash) (k : UInt32) : Hash :=
  let s1 := rotr s.e 6 ^^^ rotr s.e 11 ^^^ rotr s.e 25
  let choice := (s.e &&& s.f) ^^^ (~~~s.e &&& s.g)
  let t1 := s.h + s1 + choice + k
  let s0 := rotr s.a 2 ^^^ rotr s.a 13 ^^^ rotr s.a 22
  let majority := (s.a &&& s.b) ^^^ (s.a &&& s.c) ^^^ (s.b &&& s.c)
  ⟨t1 + s0 + majority, s.a, s.b, s.c, s.d + t1, s.e, s.f, s.g⟩

def toBytes (s : Hash) : Bytes := [s.a, s.b, s.c, s.d, s.e, s.f, s.g, s.h].flatMap toBigEndian

theorem length_toBytes (s : Hash) : s.toBytes.length = 32 := rfl

end Hash

/-- The first 32 bits of the fractional parts of the cube roots of the first 64 primes. -/
def roundConstants : List UInt32 := [
  0x428a2f98, 0x71374491, 0xb5c0fbcf, 0xe9b5dba5, 0x3956c25b, 0x59f111f1, 0x923f82a4, 0xab1c5ed5,
  0xd807aa98, 0x12835b01, 0x243185be, 0x550c7dc3, 0x72be5d74, 0x80deb1fe, 0x9bdc06a7, 0xc19bf174,
  0xe49b69c1, 0xefbe4786, 0x0fc19dc6, 0x240ca1cc, 0x2de92c6f, 0x4a7484aa, 0x5cb0a9dc, 0x76f988da,
  0x983e5152, 0xa831c66d, 0xb00327c8, 0xbf597fc7, 0xc6e00bf3, 0xd5a79147, 0x06ca6351, 0x14292967,
  0x27b70a85, 0x2e1b2138, 0x4d2c6dfc, 0x53380d13, 0x650a7354, 0x766a0abb, 0x81c2c92e, 0x92722c85,
  0xa2bfe8a1, 0xa81a664b, 0xc24b8b70, 0xc76c51a3, 0xd192e819, 0xd6990624, 0xf40e3585, 0x106aa070,
  0x19a4c116, 0x1e376c08, 0x2748774c, 0x34b0bcb5, 0x391c0cb3, 0x4ed8aa4a, 0x5b9cca4f, 0x682e6ff3,
  0x748f82ee, 0x78a5636f, 0x84c87814, 0x8cc70208, 0x90befffa, 0xa4506ceb, 0xbef9a3f7, 0xc67178f2]

/-- Appends `n` words of the schedule to those that are there, of which there are at least 16. -/
def extendSchedule (w : Array UInt32) : Nat → Array UInt32
  | 0 => w
  | n + 1 =>
    let back (i : Nat) : UInt32 := w.getD (w.size - i) 0
    let s0 := rotr (back 15) 7 ^^^ rotr (back 15) 18 ^^^ (back 15 >>> 3)
    let s1 := rotr (back 2) 17 ^^^ rotr (back 2) 19 ^^^ (back 2 >>> 10)
    extendSchedule (w.push (back 16 + s0 + back 7 + s1)) n

def schedule (block : Bytes) : List UInt32 := (extendSchedule (toWords bigEndian block).toArray 48).toList

/-- Works one block of 64 bytes into the hash. -/
def compress (s : Hash) (block : Bytes) : Hash :=
  s.add ((roundConstants.zip (schedule block)).foldl (fun t kw => t.round (kw.1 + kw.2)) s)

/-- The text, a one bit, zeros, and the length in bits: whole blocks of 64 bytes. -/
def padded (text : Bytes) : Bytes :=
  text ++ 0x80 :: List.replicate ((119 - text.length % 64) % 64) 0 ++ bitLength64 text.length

def sha256 (text : Bytes) : Bytes := ((chunks 63 (padded text)).foldl compress Hash.initial).toBytes

@[simp] theorem length_sha256 (text : Bytes) : (sha256 text).length = 32 := Hash.length_toBytes _

end TransferRegistry.Crypto
