import TransferRegistry.Crypto.Words

/-!
# AES-256

The block cipher of FIPS 197 under a 256-bit key, enciphering only. `Aes.expandKey` makes the fifteen round keys,
`Aes.encipher` is the cipher on a block of sixteen bytes; its answer always has sixteen, `length_encipher`.
-/

namespace TransferRegistry.Crypto.Aes

/-! ## Bytes as polynomials -/

/-- The double of a byte, modulo `x⁸ + x⁴ + x³ + x + 1`. -/
@[inline] def double (b : UInt8) : UInt8 := (b <<< 1) ^^^ (if b < 0x80 then 0 else 0x1b)

/-- The product of two bytes: the doubles of `b` that `a`'s `n` lowest bits select. -/
def times (a b : UInt8) : Nat → UInt8
  | 0 => 0
  | n + 1 => (if a &&& 1 = 1 then b else 0) ^^^ times (a >>> 1) (double b) n

/-- The byte whose product with `b` is 1, as `b` to the 254th, and 0 for 0. -/
def inverse (b : UInt8) : UInt8 :=
  let square (x : UInt8) := times x x 8
  let b2 := square b
  let b4 := square b2
  let b8 := square b4
  let b16 := square b8
  let b32 := square b16
  let b64 := square b32
  let b128 := square b64
  [b4, b8, b16, b32, b64, b128].foldl (fun x y => times x y 8) b2

/-- The substitution of one byte: its inverse, with five turns of it added up, and a constant. -/
def substitute (b : UInt8) : UInt8 :=
  let i := inverse b
  let turn (n : UInt8) : UInt8 := (i <<< n) ||| (i >>> (8 - n))
  i ^^^ turn 1 ^^^ turn 2 ^^^ turn 3 ^^^ turn 4 ^^^ 0x63

/-- The substitution of every byte. -/
def sBox : Array UInt8 := ((List.range 256).map fun b => substitute (UInt8.ofNat b)).toArray

/-- The substitution as looked up. -/
@[inline] def sub (b : UInt8) : UInt8 := sBox.getD b.toNat 0

/-! ## Blocks -/

/-- A block as four columns, each with its first byte on top. -/
structure Block where
  c0 : UInt32
  c1 : UInt32
  c2 : UInt32
  c3 : UInt32
deriving DecidableEq, Inhabited

namespace Block

/-- The block of sixteen bytes; what is missing at the end is 0. -/
def ofBytes (b : Bytes) : Block :=
  match toWords bigEndian (b ++ List.replicate (16 - b.length) 0) with
  | [c0, c1, c2, c3] => ⟨c0, c1, c2, c3⟩
  | _ => default

def toBytes (s : Block) : Bytes := [s.c0, s.c1, s.c2, s.c3].flatMap toBigEndian

@[simp] theorem length_toBytes (s : Block) : s.toBytes.length = 16 := rfl

@[inline] def xor (s t : Block) : Block := ⟨s.c0 ^^^ t.c0, s.c1 ^^^ t.c1, s.c2 ^^^ t.c2, s.c3 ^^^ t.c3⟩

end Block

/-- The column whose bytes are the substitutes of the first byte of `a`, the second of `b` and so on. -/
@[inline] def subColumn (a b c d : UInt32) : UInt32 :=
  bigEndian (sub (a >>> 24).toUInt8) (sub (b >>> 16).toUInt8) (sub (c >>> 8).toUInt8) (sub d.toUInt8)

/-- Substitutes every byte and turns row `i` by `i` places. -/
@[inline] def subShift (s : Block) : Block :=
  ⟨subColumn s.c0 s.c1 s.c2 s.c3, subColumn s.c1 s.c2 s.c3 s.c0, subColumn s.c2 s.c3 s.c0 s.c1,
    subColumn s.c3 s.c0 s.c1 s.c2⟩

/-- Multiplies a column by the circulant matrix of 2, 3, 1, 1. -/
@[inline] def mixColumn (c : UInt32) : UInt32 :=
  let a0 := (c >>> 24).toUInt8
  let a1 := (c >>> 16).toUInt8
  let a2 := (c >>> 8).toUInt8
  let a3 := c.toUInt8
  let all := a0 ^^^ a1 ^^^ a2 ^^^ a3
  bigEndian (a0 ^^^ all ^^^ double (a0 ^^^ a1)) (a1 ^^^ all ^^^ double (a1 ^^^ a2))
    (a2 ^^^ all ^^^ double (a2 ^^^ a3)) (a3 ^^^ all ^^^ double (a3 ^^^ a0))

@[inline] def mixColumns (s : Block) : Block := ⟨mixColumn s.c0, mixColumn s.c1, mixColumn s.c2, mixColumn s.c3⟩

/-! ## Keys -/

/-- The substitutes of a word's bytes. -/
def subWord (w : UInt32) : UInt32 := subColumn w w w w

/-- Appends `n` groups of eight words to a key schedule, with the round constant of the first of them. -/
def extendKey (w : Array UInt32) (constant : UInt8) : Nat → Array UInt32
  | 0 => w
  | n + 1 =>
    let start := w.size
    let w := (List.range 8).foldl (fun (w : Array UInt32) i =>
      let last := w.getD (w.size - 1) 0
      let changed :=
        if i = 0 then subWord (rotl last 8) ^^^ (constant.toUInt32 <<< 24)
        else if i = 4 then subWord last
        else last
      w.push (w.getD (start - 8 + i) 0 ^^^ changed)) w
    extendKey w (double constant) n

def roundKeys : List UInt32 → List Block
  | c0 :: c1 :: c2 :: c3 :: rest => ⟨c0, c1, c2, c3⟩ :: roundKeys rest
  | _ => []

/-- The fifteen round keys of a key of 32 bytes. -/
def expandKey (key : Bytes) : List Block :=
  roundKeys ((extendKey (toWords bigEndian key).toArray 1 7).toList.take 60)

/-! ## The cipher -/

/-- The rounds after the first key was added; the last one does not mix columns. -/
def rounds (s : Block) : List Block → Block
  | [] => s
  | [k] => (subShift s).xor k
  | k :: ks => rounds ((mixColumns (subShift s)).xor k) ks

def encipherBlock (keys : List Block) (s : Block) : Block :=
  match keys with
  | [] => s
  | k :: ks => rounds (s.xor k) ks

/-- The cipher on sixteen bytes. -/
def encipher (keys : List Block) (text : Bytes) : Bytes := (encipherBlock keys (Block.ofBytes text)).toBytes

@[simp] theorem length_encipher (keys : List Block) (text : Bytes) : (encipher keys text).length = 16 :=
  Block.length_toBytes _

end TransferRegistry.Crypto.Aes
