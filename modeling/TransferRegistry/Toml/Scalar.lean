import TransferRegistry.Toml.Value
import TransferRegistry.Text.Hex

/-!
# Numbers, times and truth values in TOML

`Toml.word?` tells what a word of a TOML document is. Underscores may stand between digits; whole numbers are
written in base 10 with a sign, or in base 16, 8 or 2 without; the digits before a point start with no zero but a
single one.
-/

namespace TransferRegistry.Toml

open Text (hexValue?)

/-! ## Digits -/

/-- Whether the characters are digits with single underscores between them. -/
def grouped (isDigit : Char → Bool) : List Char → Bool
  | [] => false
  | [c] => isDigit c
  | c :: '_' :: rest => isDigit c && grouped isDigit rest
  | c :: rest => isDigit c && grouped isDigit rest

def isDigitIn (base : Nat) (c : Char) : Bool :=
  match hexValue? c with
  | some d => d < base
  | none => false

/-- The number that digits make; underscores are left out. -/
def digitsValue (base : Nat) (cs : List Char) : Nat :=
  (cs.filterMap hexValue?).foldl (fun n d => base * n + d) 0

/-- The number that grouped digits make in a base. -/
def natural? (base : Nat) (cs : List Char) : Option Nat :=
  if grouped (isDigitIn base) cs then some (digitsValue base cs) else none

/-- The number that grouped digits make in base 10, with no zero before others. -/
def decimal? (cs : List Char) : Option Nat :=
  match cs with
  | '0' :: _ :: _ => none
  | cs => natural? 10 cs

/-- A sign, and what follows it. -/
def signed : List Char → Bool × List Char
  | '-' :: rest => (true, rest)
  | '+' :: rest => (false, rest)
  | cs => (false, cs)

/-! ## Numbers -/

/-- The whole numbers that are read. -/
structure IntegerRange where
  least : Int
  greatest : Int

/-- Those of 127 bits with a sign, and the positive ones of 128 bits. -/
def integerRange : IntegerRange := ⟨-(Nat.pow 2 127 : Nat), (Nat.pow 2 128 : Nat) - 1⟩

/-- The whole number that the characters write. -/
def integer? (cs : List Char) : Option Int := do
  let n : Int ← match cs with
    | '0' :: 'x' :: ds => (natural? 16 ds).map Int.ofNat
    | '0' :: 'o' :: ds => (natural? 8 ds).map Int.ofNat
    | '0' :: 'b' :: ds => (natural? 2 ds).map Int.ofNat
    | cs =>
      let (negative, ds) := signed cs
      (decimal? ds).map fun n => if negative then -(n : Int) else n
  if integerRange.least ≤ n ∧ n ≤ integerRange.greatest then return n else none

/-- The characters before the first that passes a test, and the rest from it on. -/
def splitAt? (test : Char → Bool) (cs : List Char) : Option (List Char × List Char) :=
  match cs.span (!test ·) with
  | (_, []) => none
  | (before, _ :: after) => some (before, after)

/-- Whether `digits * 10 ^ exponent` is no finite binary number of 64 bits. -/
def overflows (digits : Nat) (exponent : Int) : Bool :=
  let limit := Nat.pow 2 1024 - Nat.pow 2 970
  if digits = 0 then false
  else if 400 < exponent then true
  else if exponent < 0 then limit * Nat.pow 10 exponent.natAbs ≤ digits
  else limit ≤ digits * Nat.pow 10 exponent.toNat

/-- Whether the characters are a number with a point or an exponent, or infinite, or none. -/
def isFloat (cs : List Char) : Bool :=
  let unsigned := (signed cs).2
  if unsigned = "inf".toList || unsigned = "nan".toList then true
  else
    let (mantissa, exponent) := match splitAt? (fun c => c = 'e' || c = 'E') unsigned with
      | some (m, e) => (m, some (signed e))
      | none => (unsigned, none)
    let (whole, fraction) := match splitAt? (· = '.') mantissa with
      | some (w, f) => (w, some f)
      | none => (mantissa, none)
    let places : List Char := (fraction.getD []).filter (· ≠ '_')
    let digits := digitsValue 10 (whole ++ places)
    let scale : Int := match exponent with
      | some (negative, ds) => let n : Int := digitsValue 10 ds; if negative then -n else n
      | none => 0
    (exponent.isSome || fraction.isSome) && (decimal? whole).isSome
      && fraction.all (fun ds => (natural? 10 ds).isSome)
      && exponent.all (fun e => (natural? 10 e.2).isSome)
      && !overflows digits (scale - places.length)

/-! ## Times -/

/-- Reads two digits, up to a greatest number. -/
def twoDigits? (greatest : Nat) : List Char → Option (Nat × List Char)
  | a :: b :: rest =>
    if a.isDigit && b.isDigit then
      let n := digitsValue 10 [a, b]
      if n ≤ greatest then some (n, rest) else none
    else none
  | _ => none

def daysIn (year month : Nat) : Nat :=
  if month = 2 then if year % 4 = 0 ∧ (year % 100 ≠ 0 ∨ year % 400 = 0) then 29 else 28
  else if month = 4 ∨ month = 6 ∨ month = 9 ∨ month = 11 then 30
  else 31

def afterDate? : List Char → Option (List Char)
  | a :: b :: c :: d :: '-' :: rest => do
    guard ([a, b, c, d].all Char.isDigit)
    let (month, rest) ← twoDigits? 12 rest
    match rest with
    | '-' :: rest =>
      let (day, rest) ← twoDigits? (daysIn (digitsValue 10 [a, b, c, d]) month) rest
      if month = 0 ∨ day = 0 then none else return rest
    | _ => none
  | _ => none

/-- What follows the part of a second; a point needs digits. -/
def afterFraction? : List Char → Option (List Char)
  | '.' :: rest =>
    match rest.span Char.isDigit with
    | ([], _) => none
    | (_, rest) => some rest
  | rest => some rest

/-- What follows a time of day; its seconds may be missing. -/
def afterTime? (cs : List Char) : Option (List Char) := do
  let (_, rest) ← twoDigits? 23 cs
  match rest with
  | ':' :: rest =>
    let (_, rest) ← twoDigits? 59 rest
    match rest with
    | ':' :: rest =>
      let (_, rest) ← twoDigits? 60 rest
      afterFraction? rest
    | rest => return rest
  | _ => none

/-- Whether the characters are a distance from universal time, or nothing. -/
def isOffset : List Char → Bool
  | [] => true
  | [c] => c = 'Z' || c = 'z'
  | c :: rest =>
    (c = '+' || c = '-') && match twoDigits? 23 rest with
      | some (_, ':' :: rest) =>
        match twoDigits? 59 rest with
        | some (_, []) => true
        | _ => false
      | _ => false

def isDate (cs : List Char) : Bool := afterDate? cs = some []

/-- Whether the characters are a date, a time of day, or both, then with or without a distance. -/
def isTime (cs : List Char) : Bool :=
  match afterDate? cs with
  | some [] => true
  | some (c :: rest) => (c = 'T' || c = 't' || c = ' ') && ((afterTime? rest).map isOffset).getD false
  | none => afterTime? cs = some []

/-! ## Words -/

def word? (cs : List Char) : Option Toml :=
  if cs = "true".toList then some (.boolean true)
  else if cs = "false".toList then some (.boolean false)
  else
    match integer? cs with
    | some n => some (.integer n)
    | none =>
      if isFloat cs then some (.float (String.ofList cs))
      else if isTime cs then some (.time (String.ofList cs))
      else none

end TransferRegistry.Toml
