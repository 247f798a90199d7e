import TransferRegistry.Proofs.Json.Number
import TransferRegistry.Proofs.Number.Binary64

/-!
# Reading fractions that were written

A finite number is written by its shortest digits and read in two roundings, so what is read need not be the number
that was written. It is a number all the same: nothing that was written is too large to be read.

* `takeDigits_spec`: the digits that are taken make a number that counts no more than all of them.
* `scale?_isSome`: the digits and the power of ten give a finite number where their product leaves some room.
* `fraction_ofBinary64` and `isSome_toBinary64?`: what is written has a digit after its point, and can be read.
-/

namespace TransferRegistry.Json.Number

open TransferRegistry.Number

/-! ## Digits -/

/-- The number that digits make after the digits of `n`. -/
def follow (n : Nat) (ds : List Digit) : Nat := ds.foldl (fun (n : Nat) (d : Digit) => n * 10 + d.val) n

theorem ofDigitList_cons (d : Digit) (ds : List Digit) : ofDigitList (d :: ds) = follow d.val ds := by
  rw [ofDigitList, List.foldl_cons, Nat.zero_mul, Nat.zero_add, follow]

theorem follow_append (n : Nat) (ds es : List Digit) : follow n (ds ++ es) = follow (follow n ds) es :=
  List.foldl_append

theorem mul_pow_le_follow (ds : List Digit) (n : Nat) : n * 10 ^ ds.length ≤ follow n ds := by
  induction ds generalizing n with
  | nil => exact le_of_eq (Nat.mul_one n)
  | cons d ds ih =>
    refine le_trans ?_ (ih (n * 10 + d.val))
    rw [List.length_cons, pow_succ']
    calc n * (10 * 10 ^ ds.length) = n * 10 * 10 ^ ds.length := by ring
      _ ≤ (n * 10 + d.val) * 10 ^ ds.length := Nat.mul_le_mul_right _ (Nat.le_add_right _ _)

theorem follow_lt (ds : List Digit) (n : Nat) : follow n ds < (n + 1) * 10 ^ ds.length := by
  induction ds generalizing n with
  | nil =>
    rw [List.length_nil, pow_zero, Nat.mul_one]
    exact Nat.lt_succ_self n
  | cons d ds ih =>
    refine (ih (n * 10 + d.val)).trans_le ?_
    rw [List.length_cons, pow_succ']
    calc (n * 10 + d.val + 1) * 10 ^ ds.length ≤ (n + 1) * 10 * 10 ^ ds.length := by
          refine Nat.mul_le_mul_right _ ?_
          have := d.isLt
          omega
      _ = (n + 1) * (10 * 10 ^ ds.length) := by ring

theorem follow_replicate_zero (n k : Nat) : follow n (List.replicate k 0) = n * 10 ^ k := by
  induction k generalizing n with
  | zero => exact (Nat.mul_one n).symm
  | succ k ih =>
    rw [List.replicate_succ, follow, List.foldl_cons, ← follow, ih, pow_succ']
    have hzero : (0 : Digit).val = 0 := rfl
    rw [hzero]
    ring

theorem ofDigitList_lt (ds : List Digit) : ofDigitList ds < 10 ^ ds.length := by
  have h := follow_lt ds 0
  rwa [Nat.zero_add, Nat.one_mul] at h

/-- Of the digits after `n` some are taken; they make a number of 64 bits, and count no more than all of them. -/
theorem takeDigits_spec (ds : List Digit) {n : Nat} (hn : n < UInt64.size) (taken : Nat) :
    ∃ k ≤ ds.length, (takeDigits n taken ds).2 = taken + k ∧ (takeDigits n taken ds).1 < UInt64.size ∧
      (takeDigits n taken ds).1 * 10 ^ (ds.length - k) ≤ follow n ds := by
  induction ds generalizing n taken with
  | nil => exact ⟨0, le_rfl, rfl, hn, le_of_eq (Nat.mul_one n)⟩
  | cons d ds ih =>
    by_cases h : n * 10 + d.val < UInt64.size
    · obtain ⟨k, hk, htaken, hsize, hle⟩ := ih h (taken + 1)
      rw [takeDigits, if_pos h]
      refine ⟨k + 1, by simpa using hk, by omega, hsize, ?_⟩
      rw [List.length_cons, Nat.add_sub_add_right]
      exact hle
    · rw [takeDigits, if_neg h]
      exact ⟨0, Nat.zero_le _, rfl, hn, mul_pow_le_follow (d :: ds) n⟩

/-! ## The product with a power of ten -/

theorem powerOfTen_eq (k : Nat) : powerOfTen k = Binary64.ofNat (10 ^ k) := rfl

theorem magnitude_ofNat_zero : (Binary64.ofNat 0).magnitude = 0 := by decide +kernel

theorem scale?_isSome {all : Nat} (hall : all < UInt64.size) {exponent : Int}
    (h : 0 ≤ exponent → all * 10 ^ exponent.toNat * (2 * unitsInOne) ≤ (2 ^ 54 - 5) * 2 ^ 2045) :
    (scale? (Binary64.ofNat all) exponent).isSome := by
  unfold scale?
  split
  · rename_i hpos
    have h := h hpos
    split
    · rename_i hle
      rw [powerOfTen_eq]
      refine Binary64.mul?_isSome ?_ ?_ h
      · have hsize : 2 * (UInt64.size * unitsInOne) < (2 ^ 54 - 1) * 2 ^ 2045 := by decide +kernel
        refine lt_of_le_of_lt ?_ hsize
        exact Nat.mul_le_mul_left _ (Nat.mul_le_mul_right _ hall.le)
      · have hten : 2 * (10 ^ 308 * unitsInOne) < (2 ^ 54 - 1) * 2 ^ 2045 := by decide +kernel
        refine lt_of_le_of_lt ?_ hten
        exact Nat.mul_le_mul_left _ (Nat.mul_le_mul_right _ (Nat.pow_le_pow_right (by decide) (by omega)))
    · rename_i hlarge
      have hzero : all = 0 := by
        by_contra hne
        have hten : (2 ^ 54 - 5) * 2 ^ 2045 < 10 ^ 309 * (2 * unitsInOne) := by decide +kernel
        have hpow : 10 ^ 309 ≤ all * 10 ^ exponent.toNat := by
          calc 10 ^ 309 ≤ 10 ^ exponent.toNat := Nat.pow_le_pow_right (by decide) (by omega)
            _ ≤ all * 10 ^ exponent.toNat := Nat.le_mul_of_pos_left _ (Nat.pos_of_ne_zero hne)
        exact absurd (h.trans_lt hten) (not_lt.2 (Nat.mul_le_mul_right _ hpow))
      rw [hzero, magnitude_ofNat_zero, if_pos rfl]
      rfl
  · rfl

/-! ## Numbers that can be read -/

/-- With few digits before the point and no exponent the number is small. -/
theorem isSome_toBinary64?_of_positional {x : Number} (hexponent : x.exponent = none) (hwhole : x.whole < 10 ^ 16) :
    x.toBinary64?.isSome := by
  have hzero : 0 < UInt64.size := by decide
  obtain ⟨taken, -, htaken, hsize, -⟩ := takeDigits_spec (digitsOf x.whole) hzero 0
  obtain ⟨places, -, hplaces, hall, -⟩ := takeDigits_spec (x.fraction.getD []) hsize 0
  have hlength : (digitsOf x.whole).length ≤ 16 := by
    rw [digitsOf, List.length_map]
    exact (Nat.length_toDigits_le_iff (by decide) (by decide)).2 hwhole
  simp only [toBinary64?, Option.isSome_map, hexponent, Option.getD_none, htaken, hplaces]
  refine scale?_isSome hall fun _ => ?_
  have hroom : UInt64.size * 10 ^ 16 * (2 * unitsInOne) ≤ (2 ^ 54 - 5) * 2 ^ 2045 := by decide +kernel
  refine le_trans (Nat.mul_le_mul_right _ ?_) hroom
  exact Nat.mul_le_mul hall.le (Nat.pow_le_pow_right (by decide) (by omega))

/-- One digit before the point and an exponent: the digits that are taken count no more than all of them. -/
theorem isSome_toBinary64?_of_scientific {negative : Bool} {d : Digit} {fraction : Option (List Digit)} {e : Int}
    (h : ∀ all places, places ≤ (fraction.getD []).length →
      all * 10 ^ ((fraction.getD []).length - places) ≤ follow d.val (fraction.getD []) → 0 ≤ e - (places : Int) →
      all * 10 ^ (e - (places : Int)).toNat * (2 * unitsInOne) ≤ (2 ^ 54 - 5) * 2 ^ 2045) :
    (⟨negative, d, fraction, some e⟩ : Number).toBinary64?.isSome := by
  have hd : d.val < UInt64.size := d.isLt.trans (by decide)
  have hwhole : takeDigits 0 0 (digitsOf d.val) = (d.val, 1) := by
    rw [digitsOf_of_lt d.isLt, takeDigits, Nat.zero_mul, Nat.zero_add, if_pos hd, takeDigits]
  have hlength : (digitsOf d.val).length = 1 := by rw [digitsOf_of_lt d.isLt, List.length_singleton]
  obtain ⟨places, hle, hplaces, hall, hcount⟩ := takeDigits_spec (fraction.getD []) hd 0
  rw [Nat.zero_add] at hplaces
  simp only [toBinary64?, Option.isSome_map, hwhole, hlength, hplaces, Option.getD_some]
  have hexponent : ((1 - 1 : Nat) : Int) - (places : Int) + e = e - (places : Int) := by omega
  rw [hexponent]
  exact scale?_isSome hall (h _ places hle hcount)

/-! ## What is written -/

/-- A list without the zeros at its end. -/
def trimmed {α : Type} [DecidableEq α] (zero : α) (as : List α) : List α := (as.reverse.dropWhile (· = zero)).reverse

theorem eq_trimmed_append {α : Type} [DecidableEq α] (zero : α) (as : List α) :
    ∃ k, as = trimmed zero as ++ List.replicate k zero := by
  have hsplit := List.takeWhile_append_dropWhile (p := fun a : α => decide (a = zero)) (l := as.reverse)
  have hzeros : as.reverse.takeWhile (fun a : α => decide (a = zero)) =
      List.replicate (as.reverse.takeWhile (fun a : α => decide (a = zero))).length zero := by
    refine List.eq_replicate_iff.2 ⟨rfl, fun a ha => ?_⟩
    simpa using List.mem_takeWhile_imp ha
  refine ⟨(as.reverse.takeWhile (fun a : α => decide (a = zero))).length, ?_⟩
  rw [trimmed, ← List.reverse_replicate, ← hzeros, ← List.reverse_append, hsplit, List.reverse_reverse]

/-- The digits of the shortest decimal, the first with the exponent, count no more than the decimal. -/
theorem count_shortest_le {magnitude : Nat} (hm : magnitude ≤ infinity - 3) {d : Digit} {ds : List Digit}
    (hdigits : digitsOf (shortest magnitude).digits = d :: ds) {all places : Nat}
    (hplaces : places ≤ (trimmed 0 ds).length)
    (hall : all * 10 ^ ((trimmed 0 ds).length - places) ≤ follow d.val (trimmed 0 ds))
    (hexponent : 0 ≤ (shortest magnitude).exponent + (ds.length : Int) - (places : Int)) :
    all * 10 ^ ((shortest magnitude).exponent + (ds.length : Int) - (places : Int)).toNat * (2 * unitsInOne) ≤
      (2 ^ 54 - 5) * 2 ^ 2045 := by
  have hle := numerator_shortest_le magnitude
  have hvalue := ofDigitList_digitsOf (shortest magnitude).digits
  rw [hdigits, ofDigitList_cons] at hvalue
  obtain ⟨zeros, hzeros⟩ := eq_trimmed_append 0 ds
  have hlength : ds.length = (trimmed 0 ds).length + zeros := by
    conv_lhs => rw [hzeros]
    rw [List.length_append, List.length_replicate]
  rw [hzeros, follow_append, follow_replicate_zero] at hvalue
  unfold Decimal.numerator Decimal.denominator at hle
  rw [← hvalue] at hle
  simp only [Nat.pow_eq] at hle
  generalize (shortest magnitude).exponent = e at hle hexponent ⊢
  have hpos : 0 < 10 ^ (-e).toNat := pow_pos (by decide) _
  refine Nat.le_of_mul_le_mul_right ?_ hpos
  have hexp : (e + (ds.length : Int) - (places : Int)).toNat + (-e).toNat =
      ((trimmed 0 ds).length - places) + zeros + e.toNat := by omega
  refine le_trans ?_ (hle.trans (Nat.mul_le_mul_right _ (middle_le hm)))
  calc all * 10 ^ (e + (ds.length : Int) - (places : Int)).toNat * (2 * unitsInOne) * 10 ^ (-e).toNat
      = all * (10 ^ (e + (ds.length : Int) - (places : Int)).toNat * 10 ^ (-e).toNat) * (2 * unitsInOne) := by ring
    _ = all * 10 ^ ((trimmed 0 ds).length - places) * 10 ^ zeros * 10 ^ e.toNat * (2 * unitsInOne) := by
      rw [← pow_add, hexp, pow_add, pow_add]
      ring
    _ ≤ follow d.val (trimmed 0 ds) * 10 ^ zeros * 10 ^ e.toNat * (2 * unitsInOne) :=
      Nat.mul_le_mul_right _ (Nat.mul_le_mul_right _ (Nat.mul_le_mul_right _ hall))

/-- The two largest magnitudes can be read as well. -/
theorem isSome_toBinary64?_last (x : Binary64) (h : infinity - 3 < x.magnitude) :
    (ofBinary64 x).toBinary64?.isSome := by
  have hlast : ∀ negative, (ofBinary64 ⟨negative, infinity - 1, by decide⟩).toBinary64?.isSome ∧
      (ofBinary64 ⟨negative, infinity - 2, by decide⟩).toBinary64?.isSome := by decide +kernel
  obtain ⟨negative, magnitude, hfinite⟩ := x
  have hcases : magnitude = infinity - 1 ∨ magnitude = infinity - 2 := by
    simp only at h
    omega
  rcases hcases with rfl | rfl
  · exact (hlast negative).1
  · exact (hlast negative).2

/-- A written fraction has a digit after its point. -/
theorem fraction_ofDigits (negative : Bool) (d : Digit) (ds : List Digit) (e : Int) :
    (ofDigits negative d ds e).fraction ≠ some [] := by
  unfold ofDigits
  simp only
  split
  · split
    · split
      · simp
      · rename_i hrest
        exact fun h => hrest (Option.some.inj h)
    · simp
  · split
    · simp
    · rename_i hds
      exact fun h => hds (Option.some.inj h)

theorem fraction_ofBinary64 (x : Binary64) : (ofBinary64 x).fraction ≠ some [] := by
  unfold ofBinary64
  simp only
  split
  · simp
  · split
    · simp
    · exact fraction_ofDigits _ _ _ _

theorem isSome_toBinary64? (x : Binary64) : (ofBinary64 x).toBinary64?.isSome := by
  by_cases hlast : infinity - 3 < x.magnitude
  · exact isSome_toBinary64?_last x hlast
  have hm : x.magnitude ≤ infinity - 3 := Nat.le_of_not_lt hlast
  unfold ofBinary64
  simp only
  split
  · exact isSome_toBinary64?_of_positional rfl (by norm_num)
  · split
    · exact isSome_toBinary64?_of_positional rfl (by norm_num)
    · rename_i d ds hdigits
      have hkept : (ds.reverse.dropWhile (· = 0)).reverse = trimmed 0 ds := rfl
      rw [hkept]
      unfold ofDigits
      simp only
      split
      · rename_i he
        have hpoint : positional.greatest = 15 := rfl
        split
        · refine isSome_toBinary64?_of_positional rfl ?_
          refine (ofDigitList_lt _).trans_le (Nat.pow_le_pow_right (by decide) ?_)
          refine (List.length_take_le _ _).trans ?_
          omega
        · exact isSome_toBinary64?_of_positional rfl (by norm_num)
      · refine isSome_toBinary64?_of_scientific fun all places hplaces hall hexponent => ?_
        have hsome : (if trimmed 0 ds = [] then none else some (trimmed 0 ds)).getD [] = trimmed 0 ds := by
          split
          · rw [‹trimmed 0 ds = []›]
            rfl
          · rfl
        rw [hsome] at hplaces hall
        exact count_shortest_le hm hdigits hplaces hall hexponent

end TransferRegistry.Json.Number
