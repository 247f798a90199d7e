/-!
# Finite binary64 numbers

The finite numbers of the 64-bit binary format, by sign and magnitude. Each is a whole number of the least positive
one, `2 ^ -1074`; `units` is that number, so every operation is exact arithmetic on natural numbers followed by one
rounding, `nearest?`, to the nearest number of the format and from the middle to the even one.

Infinities and what is not a number are left out. They do not come about where the numbers are used: a quotient of two
whole numbers below `2 ^ 64`, of which the second is not zero, is below `2 ^ 64` too, and a JSON text that stands for a
number beyond the finite ones is refused.
-/

namespace TransferRegistry.Number

/-- The magnitude after the last finite one. -/
abbrev infinity : Nat := 0x7FF0000000000000

/-- The magnitude of the least number with an exponent: above its fraction of 52 bits. -/
abbrev leadingBit : Nat := 0x10000000000000

def unitsInOne : Nat := 1 <<< 1074

/-- A finite number: its sign, and the other 63 bits as a number below those of infinity. -/
structure Binary64 where
  negative : Bool
  magnitude : Nat
  finite : magnitude < infinity := by decide
deriving DecidableEq

/-- A quotient rounded to the nearest whole number, from the middle to the even one. -/
def roundDiv (n d : Nat) : Nat :=
  let q := n / d
  let r := n % d
  if d < 2 * r ∨ (d = 2 * r ∧ q % 2 = 1) then q + 1 else q

/-- How many least units a magnitude counts. -/
def unitsOf (magnitude : Nat) : Nat :=
  let exponent := magnitude / leadingBit
  let fraction := magnitude % leadingBit
  if exponent = 0 then fraction else (leadingBit + fraction) <<< (exponent - 1)

/-- The magnitude nearest to `n / d` least units, as if the format had no largest one. -/
def nearestMagnitude (n d : Nat) : Nat :=
  let shift := (n / d).log2 - 52
  shift * leadingBit + roundDiv n (d <<< shift)

namespace Binary64

instance : Inhabited Binary64 := ⟨{ negative := false, magnitude := 0 }⟩

/-- Zero, without a sign. -/
def zero : Binary64 := default

/-- The largest finite number. -/
def largest : Binary64 := { negative := false, magnitude := infinity - 1 }

def toBits (x : Binary64) : Nat := (if x.negative then 0x8000000000000000 else 0) + x.magnitude

/-- The distance from zero in least units. -/
def units (x : Binary64) : Nat := unitsOf x.magnitude

/-- The number nearest to `n / d` least units, with a sign; none where it would be infinite. -/
def nearest? (negative : Bool) (n d : Nat) : Option Binary64 :=
  let m := nearestMagnitude n d
  if h : m < infinity then some { negative, magnitude := m, finite := h } else none

/-- The number nearest to `n / d` least units, or the largest one. -/
def nearest (n d : Nat) : Binary64 := (nearest? false n d).getD largest

/-- The number nearest to a natural one. -/
def ofNat (n : Nat) : Binary64 := nearest (n * unitsInOne) 1

/-- The quotient of two magnitudes, `y` not zero. -/
def div (x y : Binary64) : Binary64 := nearest (x.units * unitsInOne) y.units

/-- The product of two magnitudes; none where it would be infinite. -/
def mul? (x y : Binary64) : Option Binary64 := nearest? false (x.units * y.units) unitsInOne

/-- The number with the sign of `negative`. -/
def withSign (x : Binary64) (negative : Bool) : Binary64 := { x with negative }

end Binary64

end TransferRegistry.Number
