import TransferRegistry.Json.Parser
import TransferRegistry.Json.Printer

/-!
# Reading numbers that were written

* `digitsOf_of_ge`: the digits of a number are those of its tenth and its last one; `ofDigitList_digitsOf` reads them
  back, and no zero is before others (`ne_zero_of_digitsOf`).
* `Ends`: what follows cannot be part of a number.
* `number?_numberChars`: a number that is written is read as it was, if its fraction has a digit.
-/

namespace TransferRegistry.Json

namespace Number

/-! ## Digits -/

theorem digitsOf_of_lt {n : Nat} (h : n < 10) : digitsOf n = [⟨n, h⟩] := by
  have all : ∀ m : Digit, digitsOf m.val = [m] := by decide
  exact all ⟨n, h⟩

theorem digitsOf_of_ge {n : Nat} (h : 10 ≤ n) :
    digitsOf n = digitsOf (n / 10) ++ [⟨n % 10, Nat.mod_lt _ (by decide)⟩] := by
  have hlast := digitsOf_of_lt (Nat.mod_lt n (by decide : 10 > 0))
  rw [digitsOf, Nat.toDigits_of_lt_base (Nat.mod_lt _ (by decide))] at hlast
  rw [digitsOf, Nat.toDigits_of_base_le (by decide) h, List.map_append, hlast, digitsOf]

theorem ofDigitList_concat (ds : List Digit) (d : Digit) :
    ofDigitList (ds ++ [d]) = ofDigitList ds * 10 + d.val := List.foldl_append

theorem ofDigitList_digitsOf (n : Nat) : ofDigitList (digitsOf n) = n := by
  induction n using Nat.strongRecOn with
  | ind n ih =>
    by_cases h : n < 10
    · rw [digitsOf_of_lt h]
      exact Nat.zero_add n
    · have h : 10 ≤ n := Nat.le_of_not_lt h
      rw [digitsOf_of_ge h, ofDigitList_concat, ih (n / 10) (by omega)]
      simp only
      omega

theorem digitsOf_ne_nil (n : Nat) : digitsOf n ≠ [] := by
  rw [digitsOf, ne_eq, List.map_eq_nil_iff]
  exact Nat.toDigits_ne_nil

/-- A number with more than one digit has a first one that is not zero. -/
theorem ne_zero_of_digitsOf {n : Nat} {d e : Digit} {ds : List Digit} (h : digitsOf n = d :: e :: ds) : d.val ≠ 0 := by
  induction n using Nat.strongRecOn generalizing e ds with
  | ind n ih =>
    by_cases hn : n < 10
    · rw [digitsOf_of_lt hn] at h
      cases h
    · have hn : 10 ≤ n := Nat.le_of_not_lt hn
      rw [digitsOf_of_ge hn] at h
      cases hrest : digitsOf (n / 10) with
      | nil => exact absurd hrest (digitsOf_ne_nil _)
      | cons first rest =>
        rw [hrest, List.cons_append, List.cons.injEq] at h
        obtain ⟨rfl, -⟩ := h
        cases rest with
        | cons second rest => exact ih (n / 10) (by omega) hrest
        | nil =>
          have hvalue := ofDigitList_digitsOf (n / 10)
          rw [hrest] at hvalue
          have hfirst : ofDigitList [first] = first.val := Nat.zero_add _
          omega

/-- The characters of a number are those of its digits. -/
theorem natChars_eq (n : Nat) : natChars n = (digitsOf n).map fun d => Nat.digitChar d.val := by
  induction n using Nat.strongRecOn with
  | ind n ih =>
    by_cases h : n < 10
    · rw [natChars, Nat.toDigits_of_lt_base h, digitsOf_of_lt h, List.map_singleton]
    · have h : 10 ≤ n := Nat.le_of_not_lt h
      rw [natChars, Nat.toDigits_of_base_le (by decide) h, digitsOf_of_ge h, List.map_append, ← ih (n / 10) (by omega)]
      rfl

end Number

open Json.Number

/-! ## Reading -/

theorem digit?_digitChar (d : Digit) : digit? (Nat.digitChar d.val) = some d := by
  have all : ∀ d : Digit, digit? (Nat.digitChar d.val) = some d := by decide
  exact all d

/-- No digit is next. -/
def NoDigit (rest : List Char) : Prop := ∀ c ∈ rest.head?, digit? c = none

/-- What is next cannot go on with a number. -/
def Ends (rest : List Char) : Prop := ∀ c ∈ rest.head?, digit? c = none ∧ c ≠ '.' ∧ c ≠ 'e' ∧ c ≠ 'E'

theorem Ends.noDigit {rest : List Char} (h : Ends rest) : NoDigit rest := fun c hc => (h c hc).1

theorem digits_of_noDigit {rest : List Char} (h : NoDigit rest) : digits rest = ([], rest) := by
  cases rest with
  | nil => rfl
  | cons c rest => rw [digits, h c rfl]

theorem digits_digitChars (ds : List Digit) {rest : List Char} (h : NoDigit rest) :
    digits ((ds.map fun d => Nat.digitChar d.val) ++ rest) = (ds, rest) := by
  induction ds with
  | nil => exact digits_of_noDigit h
  | cons d ds ih => rw [List.map_cons, List.cons_append, digits, digit?_digitChar, ih]

theorem digits_natChars (n : Nat) {rest : List Char} (h : NoDigit rest) :
    digits (natChars n ++ rest) = (digitsOf n, rest) := by
  rw [natChars_eq, digits_digitChars _ h]

theorem whole?_natChars (n : Nat) {rest : List Char} (h : NoDigit rest) : whole? (natChars n ++ rest) = some (n, rest) := by
  rw [whole?, digits_natChars n h]
  have hvalue := ofDigitList_digitsOf n
  cases hdigits : digitsOf n with
  | nil => exact absurd hdigits (digitsOf_ne_nil n)
  | cons d ds =>
    rw [hdigits] at hvalue
    cases ds with
    | nil =>
      have hd : d.val = n := by rw [← hvalue]; exact (Nat.zero_add _).symm
      simp only [hd]
    | cons e ds => simp only [if_neg (ne_zero_of_digitsOf hdigits), hvalue]

/-- The characters of a fraction. -/
def fractionChars : Option (List Digit) → List Char
  | none => []
  | some ds => '.' :: ds.map fun d => Nat.digitChar d.val

/-- The characters of an exponent. -/
def exponentChars : Option Int → List Char
  | none => []
  | some e => 'e' :: (if e < 0 then '-' else '+') :: natChars e.natAbs

theorem numberChars_eq (n : Number) :
    numberChars n = (if n.negative then ['-'] else []) ++
      (natChars n.whole ++ (fractionChars n.fraction ++ exponentChars n.exponent)) := by
  rw [numberChars, List.append_assoc, List.append_assoc]
  cases n.fraction <;> cases n.exponent <;> rfl

theorem noDigit_exponentChars (e : Option Int) {rest : List Char} (h : Ends rest) :
    NoDigit (exponentChars e ++ rest) := by
  cases e with
  | none => exact h.noDigit
  | some e =>
    intro c hc
    obtain rfl : 'e' = c := Option.some.inj hc
    decide

theorem noDigit_fractionChars (f : Option (List Digit)) (e : Option Int) {rest : List Char} (h : Ends rest) :
    NoDigit (fractionChars f ++ (exponentChars e ++ rest)) := by
  cases f with
  | none => exact noDigit_exponentChars e h
  | some ds =>
    intro c hc
    obtain rfl : '.' = c := Option.some.inj hc
    decide

theorem fraction?_fractionChars {f : Option (List Digit)} (hf : f ≠ some []) (e : Option Int) {rest : List Char}
    (h : Ends rest) :
    fraction? (fractionChars f ++ (exponentChars e ++ rest)) = some (f, exponentChars e ++ rest) := by
  cases f with
  | some ds =>
    rw [fractionChars, List.cons_append, fraction?, digits_digitChars ds (noDigit_exponentChars e h)]
    cases ds with
    | nil => exact absurd rfl hf
    | cons d ds => rfl
  | none =>
    have hpoint : ∀ c ∈ (exponentChars e ++ rest).head?, c ≠ '.' := by
      cases e with
      | none => exact fun c hc => (h c hc).2.1
      | some e =>
        rintro c hc rfl
        cases hc
    rw [fractionChars, List.nil_append]
    unfold fraction?
    split
    · rename_i hchars
      exact absurd rfl (hpoint '.' (by rw [hchars]; rfl))
    · rfl

theorem exponent?_exponentChars (e : Option Int) {rest : List Char} (h : Ends rest) :
    exponent? (exponentChars e ++ rest) = some (e, rest) := by
  cases e with
  | none =>
    cases rest with
    | nil => rfl
    | cons c rest =>
      obtain ⟨-, -, hsmall, hcapital⟩ := h c rfl
      rw [exponentChars, List.nil_append, exponent?, if_neg (not_or.2 ⟨hsmall, hcapital⟩)]
  | some e =>
    have hvalue := ofDigitList_digitsOf e.natAbs
    cases hdigits : digitsOf e.natAbs with
    | nil => exact absurd hdigits (digitsOf_ne_nil _)
    | cons d ds =>
      rw [hdigits] at hvalue
      by_cases hneg : e < 0
      · have he : -(e.natAbs : Int) = e := by omega
        rw [exponentChars]
        generalize e.natAbs = n at hvalue hdigits he ⊢
        simp [exponent?, exponentSign, hneg, digits_natChars _ h.noDigit, hdigits, hvalue, he]
      · have he : (e.natAbs : Int) = e := by omega
        rw [exponentChars]
        generalize e.natAbs = n at hvalue hdigits he ⊢
        simp [exponent?, exponentSign, hneg, digits_natChars _ h.noDigit, hdigits, hvalue, he]

/-- A written number starts with a digit or a minus sign. -/
theorem natChars_cons (n : Nat) : ∃ (d : Digit) (cs : List Char), natChars n = Nat.digitChar d.val :: cs := by
  rw [natChars_eq]
  cases hdigits : digitsOf n with
  | nil => exact absurd hdigits (digitsOf_ne_nil n)
  | cons d ds => exact ⟨d, _, List.map_cons⟩

/-- A number without a minus sign. -/
theorem number?_of_ne {c : Char} (hc : c ≠ '-') (s : List Char) :
    number? (c :: s) = (do
      let (whole, s) ← whole? (c :: s)
      let (fraction, s) ← fraction? s
      let (exponent, s) ← exponent? s
      return (⟨false, whole, fraction, exponent⟩, s)) := by
  unfold number?
  split
  rename_i hsign
  split at hsign
  · rename_i heq
    exact absurd (List.cons.inj heq).1 hc
  · obtain ⟨rfl, rfl⟩ := Prod.mk.inj hsign
    rfl

theorem number?_numberChars (n : Number) (hf : n.fraction ≠ some []) {rest : List Char} (h : Ends rest) :
    number? (numberChars n ++ rest) = some (n, rest) := by
  obtain ⟨negative, whole, fraction, exponent⟩ := n
  have hwhole := whole?_natChars whole (noDigit_fractionChars fraction exponent h)
  have hfraction := fraction?_fractionChars hf exponent h
  have hexponent := exponent?_exponentChars exponent h
  rw [numberChars_eq, List.append_assoc, List.append_assoc, List.append_assoc]
  cases negative with
  | true =>
    simp only [number?, if_true, List.singleton_append, hwhole, hfraction, hexponent, Option.bind_eq_bind,
      Option.bind_some, Option.pure_def]
  | false =>
    have hdigit : ∀ d : Digit, Nat.digitChar d.val ≠ '-' := by decide
    obtain ⟨d, cs, hcs⟩ := natChars_cons whole
    simp only [Bool.false_eq_true, if_false, List.nil_append]
    rw [hcs, List.cons_append] at hwhole ⊢
    simp only [number?_of_ne (hdigit d), hwhole, hfraction, hexponent, Option.bind_eq_bind, Option.bind_some,
      Option.pure_def]

end TransferRegistry.Json
