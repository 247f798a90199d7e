import TransferRegistry.Number.Binary64

/-!
# Shortest decimals

`shortest` finds the digits and the exponent of the shortest decimal that reads back as a magnitude, and of those the
nearest to it. `readsAs` says when a decimal reads back: it lies between the middles to the two neighbours of the
magnitude, or on one of them where the magnitude is even. For one digit, two, and so on up to seventeen, the two
decimals next to the magnitude are tried; the first length with a hit wins.
-/

namespace TransferRegistry.Number

/-- A decimal `digits * 10 ^ exponent`, as a fraction of natural numbers. -/
structure Decimal where
  digits : Nat
  exponent : Int
deriving DecidableEq

namespace Decimal

/-- Numerator of the decimal in half units of `2 ^ -1075`. -/
def numerator (x : Decimal) : Nat := x.digits * Nat.pow 10 x.exponent.toNat * (2 * unitsInOne)

/-- Denominator of the decimal in half units. -/
def denominator (x : Decimal) : Nat := Nat.pow 10 (-x.exponent).toNat

/-- Whether the decimal reads back as the positive magnitude. -/
def readsAs (x : Decimal) (magnitude : Nat) : Bool :=
  let low := (unitsOf (magnitude - 1) + unitsOf magnitude) * x.denominator
  let high := (unitsOf magnitude + unitsOf (magnitude + 1)) * x.denominator
  if magnitude % 2 = 0 then low ≤ x.numerator && x.numerator ≤ high
  else low < x.numerator && x.numerator < high

/-- The distance from the magnitude in half units, times the denominator. -/
def distance (x : Decimal) (magnitude : Nat) : Nat :=
  let target := 2 * unitsOf magnitude * x.denominator
  (target - x.numerator) + (x.numerator - target)

end Decimal

/-- The exponent of the first digit: the greatest `e ≤ start` with `10 ^ e` at most `n / d`, within `fuel` steps. -/
def firstExponent (n d : Nat) (start : Int) : Nat → Int
  | 0 => start
  | fuel + 1 =>
    if d * Nat.pow 10 start.toNat ≤ n * Nat.pow 10 (-start).toNat then start
    else firstExponent n d (start - 1) fuel

/-- The exponent of the first decimal digit of a positive magnitude. -/
def decimalExponent (magnitude : Nat) : Int :=
  let units := unitsOf magnitude
  -- `log2 units` is the binary exponent above `2 ^ -1074`; the estimate is at most one too high.
  let binary : Int := (units.log2 : Int) - 1074
  firstExponent units unitsInOne (binary * 30103 / 100000 + 1) 3

/-- The decimal with `places + 1` digits that reads back as the magnitude, if there is one: of the two next to it the
nearer, and from the middle the even one. -/
def decimalOf? (magnitude : Nat) (first : Int) (places : Nat) : Option Decimal :=
  let exponent := first - places
  let units := unitsOf magnitude
  let below := units * Nat.pow 10 (-exponent).toNat / (unitsInOne * Nat.pow 10 exponent.toNat)
  let low : Decimal := ⟨below, exponent⟩
  let high : Decimal := ⟨below + 1, exponent⟩
  match low.readsAs magnitude, high.readsAs magnitude with
  | true, true =>
    let a := low.distance magnitude
    let b := high.distance magnitude
    if a < b ∨ (a = b ∧ below % 2 = 0) then some low else some high
  | true, false => some low
  | false, true => some high
  | false, false => none

/-- The shortest decimal that reads back as a positive magnitude, with at most seventeen digits. -/
def shortest (magnitude : Nat) : Decimal :=
  let first := decimalExponent magnitude
  ((List.range 17).findSome? (decimalOf? magnitude first)).getD ⟨0, 0⟩

end TransferRegistry.Number
