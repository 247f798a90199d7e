import TransferRegistry.Number.Shortest

/-!
# Numbers in JSON

`Json.Number` is a number as it is written. `toUInt64?` and `toInt64?` read the whole ones, which have neither point
nor exponent; `toBinary64?` reads any number, in two roundings: the digits that fit 64 bits are rounded first, and
then the product or quotient with a power of ten. `ofBinary64` writes the shortest digits, with a point where the
first digit counts at least `10 ^ -5` and less than `10 ^ 16`, else with an exponent.
-/

namespace TransferRegistry.Json

open TransferRegistry.Number

abbrev Digit := Fin 10

/-- A number as written: a sign, the digits before the point as a number, those after it, and the exponent. -/
structure Number where
  negative : Bool
  whole : Nat
  fraction : Option (List Digit)
  exponent : Option Int
deriving DecidableEq, Inhabited

namespace Number

/-! ## Whole numbers -/

def ofNat (n : Nat) : Number := ⟨false, n, none, none⟩

def ofInt (n : Int) : Number := ⟨n < 0, n.natAbs, none, none⟩

/-- The natural number below `2 ^ bits` that is written without sign, point and exponent. -/
def toNat? (x : Number) (bits : Nat) : Option Nat :=
  match x with
  | ⟨false, n, none, none⟩ => if n < 1 <<< bits then some n else none
  | _ => none

/-- The natural number of 64 bits. -/
def toUInt64? (x : Number) : Option UInt64 := (x.toNat? 64).map UInt64.ofNat
/-- The natural number of 32 bits. -/
def toUInt32? (x : Number) : Option UInt32 := (x.toNat? 32).map UInt32.ofNat

/-- The whole number of 64 bits with a sign; minus zero is none. -/
def toInt64? (x : Number) : Option Int64 :=
  match x with
  | ⟨false, n, none, none⟩ => if n < 0x8000000000000000 then some (Int64.ofNat n) else none
  | ⟨true, n, none, none⟩ => if 0 < n ∧ n ≤ 0x8000000000000000 then some (Int64.ofInt (-n)) else none
  | _ => none

/-! ## Digits -/

def ofDigitList (ds : List Digit) : Nat := ds.foldl (fun (n : Nat) (d : Digit) => n * 10 + d.val) 0

def digitsOf (n : Nat) : List Digit := (Nat.toDigits 10 n).map fun c => Fin.ofNat 10 (c.toNat - 48)

/-! ## Reading a fraction -/

/-- The number that digits after `n` make, each while it leaves the number below `2 ^ 64`, and how many did. -/
def takeDigits (n taken : Nat) : List Digit → Nat × Nat
  | [] => (n, taken)
  | d :: ds => if n * 10 + d < UInt64.size then takeDigits (n * 10 + d) (taken + 1) ds else (n, taken)

/-- A power of ten, up to `10 ^ 308`. -/
def powerOfTen (k : Nat) : Binary64 := Binary64.ofNat (Nat.pow 10 k)

/-- The quotient with `10 ^ k`: by `10 ^ 308` as long as `k` is larger. -/
def divideByPower (x : Binary64) (k : Nat) : Binary64 :=
  if k ≤ 308 then x.div (powerOfTen k)
  else if x.magnitude = 0 then x
  else divideByPower (x.div (powerOfTen 308)) (k - 308)
termination_by k
decreasing_by omega

/-- The product or quotient with a power of ten; none where it would be infinite. -/
def scale? (x : Binary64) (exponent : Int) : Option Binary64 :=
  if 0 ≤ exponent then
    if exponent ≤ 308 then x.mul? (powerOfTen exponent.toNat)
    else if x.magnitude = 0 then some x
    else none
  else some (divideByPower x exponent.natAbs)

/-- The number of the format that the digits are read as; none where it is too large. -/
def toBinary64? (x : Number) : Option Binary64 :=
  let digits := digitsOf x.whole
  let (whole, taken) := takeDigits 0 0 digits
  let (all, places) := takeDigits whole 0 (x.fraction.getD [])
  let exponent : Int := (digits.length - taken : Nat) - (places : Int) + x.exponent.getD 0
  (scale? (Binary64.ofNat all) exponent).map (·.withSign x.negative)

/-! ## Writing a fraction -/

/-- Which exponents of the first digit are written with a point alone. -/
structure PointRange where
  least : Int
  greatest : Int

/-- From `0.00001` to below `10000000000000000.0`. -/
def positional : PointRange := ⟨-5, 15⟩

/-- The number with the digits `d :: ds`, the first of which counts `10 ^ e`. -/
def ofDigits (negative : Bool) (d : Digit) (ds : List Digit) (e : Int) : Number :=
  if positional.least ≤ e ∧ e ≤ positional.greatest then
    if 0 ≤ e then
      let all := d :: ds ++ List.replicate (e.toNat + 1 - (ds.length + 1)) 0
      let rest := all.drop (e.toNat + 1)
      ⟨negative, ofDigitList (all.take (e.toNat + 1)), some (if rest = [] then [0] else rest), none⟩
    else ⟨negative, 0, some (List.replicate (e.natAbs - 1) 0 ++ d :: ds), none⟩
  else ⟨negative, d, if ds = [] then none else some ds, some e⟩

/-- The shortest way to write a number of the format. -/
def ofBinary64 (x : Binary64) : Number :=
  if x.magnitude = 0 then ⟨x.negative, 0, some [0], none⟩
  else
    let short := shortest x.magnitude
    match digitsOf short.digits with
    | [] => ⟨x.negative, 0, some [0], none⟩
    | d :: ds =>
      let kept := (ds.reverse.dropWhile (· = 0)).reverse
      ofDigits x.negative d kept (short.exponent + ds.length)

end Number

end TransferRegistry.Json
