import TransferRegistry.Crypto.Sha256

/-!
# Keyed hashing and key stretching

`hmacSha256` is HMAC (RFC 2104) over SHA-256; `pbkdf2` is PBKDF2 (RFC 8018) over that HMAC, and `length_pbkdf2`
says that it yields as many bytes as are asked for.
-/

namespace TransferRegistry.Crypto

/-- A key as the 64 bytes HMAC works with: a longer one is hashed first, a shorter one is filled with zeros. -/
def hmacKey (key : Bytes) : Bytes :=
  let short := if key.length ≤ 64 then key else sha256 key
  short ++ List.replicate (64 - short.length) 0

def hmacSha256 (key text : Bytes) : Bytes :=
  let k := hmacKey key
  sha256 (k.map (· ^^^ 0x5c) ++ sha256 (k.map (· ^^^ 0x36) ++ text))

@[simp] theorem length_hmacSha256 (key text : Bytes) : (hmacSha256 key text).length = 32 := length_sha256 _

/-- The sum of `rounds` further codes, each the code of the one before. -/
def pbkdf2Sum (password : Bytes) (last sum : Bytes) : Nat → Bytes
  | 0 => sum
  | rounds + 1 =>
    let next := hmacSha256 password last
    pbkdf2Sum password next (xorBytes sum next) rounds

/-- A sum of codes is as long as a code. -/
theorem length_pbkdf2Sum (password : Bytes) {sum : Bytes} (h : sum.length = 32) :
    ∀ (rounds : Nat) (last : Bytes), (pbkdf2Sum password last sum rounds).length = 32 := by
  intro rounds
  induction rounds generalizing sum with
  | zero => exact fun _ => h
  | succ rounds ih =>
    intro last
    exact ih (by rw [length_xorBytes, h, length_hmacSha256, Nat.min_self]) _

/-- The `i`-th block of 32 derived bytes, counted from 1, after `rounds + 1` codes. -/
def pbkdf2Block (password salt : Bytes) (rounds i : Nat) : Bytes :=
  let first := hmacSha256 password (salt ++ toBigEndian (UInt32.ofNat i))
  pbkdf2Sum password first first rounds

theorem length_pbkdf2Block (password salt : Bytes) (rounds i : Nat) :
    (pbkdf2Block password salt rounds i).length = 32 :=
  length_pbkdf2Sum password (length_hmacSha256 ..) rounds _

theorem length_flatMap_pbkdf2Block (password salt : Bytes) (rounds : Nat) (is : List Nat) :
    (is.flatMap (pbkdf2Block password salt rounds)).length = 32 * is.length := by
  induction is with
  | nil => rfl
  | cons i is ih =>
    rw [List.flatMap_cons, List.length_append, length_pbkdf2Block, ih, List.length_cons]
    omega

/-- `length` bytes derived from a password and a salt with `rounds + 1` codes for each block. -/
def pbkdf2 (password salt : Bytes) (rounds length : Nat) : Bytes :=
  ((List.range' 1 ((length + 31) / 32)).flatMap (pbkdf2Block password salt rounds)).take length

/-- As many bytes are derived as are asked for. -/
@[simp] theorem length_pbkdf2 (password salt : Bytes) (rounds length : Nat) :
    (pbkdf2 password salt rounds length).length = length := by
  rw [pbkdf2, List.length_take, length_flatMap_pbkdf2Block, List.length_range']
  omega

end TransferRegistry.Crypto
