import Mathlib
import TransferRegistry.Number.Shortest

/-!
# Rounding to binary64

Values are counted in least units, so a bound on a rounding is an inequality of natural numbers.

* `unitsOf_add`: the units of a magnitude that is given by a shift and a rounded quotient; `unitsOf_mono` follows.
* `nearestMagnitude_lt`: what is less than half a step above the largest finite number rounds to a finite one.
* `units_ofNat_le`: a natural number grows by at most one part in `2 ^ 53` when it is rounded.
* `mul?_isSome`: the product of two rounded numbers is finite where the product of the numbers leaves some room.
* `readsAs_shortest`: the shortest decimal is not above the middle to the next magnitude.
-/

namespace TransferRegistry.Number

/-! ## Rounded quotients -/

theorem two_mul_roundDiv_le (n : Nat) {d : Nat} (hd : 0 < d) : 2 * (d * roundDiv n d) ≤ 2 * n + d := by
  have hn := Nat.div_add_mod n d
  have hr := Nat.mod_lt n hd
  unfold roundDiv
  simp only
  split
  · rw [Nat.mul_add]
    omega
  · omega

theorem roundDiv_le {n d k : Nat} (hd : 0 < d) (h : 2 * n < d * (2 * k + 1)) : roundDiv n d ≤ k := by
  have hle := two_mul_roundDiv_le n hd
  have hlt : d * roundDiv n d < d * (k + 1) := by
    rw [Nat.mul_add, Nat.mul_one] at h
    rw [Nat.mul_add, Nat.mul_one]
    have : d * (2 * k) = 2 * (d * k) := Nat.mul_left_comm d 2 k
    omega
  exact Nat.lt_succ_iff.1 (Nat.lt_of_mul_lt_mul_left hlt)

theorem le_roundDiv {n d k : Nat} (hd : 0 < d) (h : k * d ≤ n) : k ≤ roundDiv n d := by
  have hq : k ≤ n / d := (Nat.le_div_iff_mul_le hd).2 h
  unfold roundDiv
  simp only
  split <;> omega

theorem roundDiv_one (n : Nat) : roundDiv n 1 = n := by simp [roundDiv, Nat.mod_one]

/-! ## Units -/

/-- A quotient of at most 53 bits, shifted, where all 53 bits are used unless there is no shift. -/
theorem unitsOf_add {shift r : Nat} (hr : r ≤ 2 ^ 53) (hs : shift = 0 ∨ 2 ^ 52 ≤ r) :
    unitsOf (shift * leadingBit + r) = r * 2 ^ shift := by
  have hbit : leadingBit = 2 ^ 52 := rfl
  unfold unitsOf
  simp only [hbit]
  by_cases hsmall : r < 2 ^ 52
  · obtain rfl : shift = 0 := hs.resolve_right (by omega)
    have hdiv : (0 * 2 ^ 52 + r) / 2 ^ 52 = 0 := by omega
    have hmod : (0 * 2 ^ 52 + r) % 2 ^ 52 = r := by omega
    rw [hdiv, hmod, if_pos rfl, Nat.pow_zero, Nat.mul_one]
  by_cases hlarge : r < 2 ^ 53
  · have hdiv : (shift * 2 ^ 52 + r) / 2 ^ 52 = shift + 1 := by omega
    have hmod : (shift * 2 ^ 52 + r) % 2 ^ 52 = r - 2 ^ 52 := by omega
    have hsum : 2 ^ 52 + (r - 2 ^ 52) = r := by omega
    rw [hdiv, hmod, if_neg (by omega), hsum, Nat.add_sub_cancel, Nat.shiftLeft_eq]
  · -- the rounding carried into a bit of its own
    obtain rfl : r = 2 ^ 53 := by omega
    have hdiv : (shift * 2 ^ 52 + 2 ^ 53) / 2 ^ 52 = shift + 2 := by omega
    have hmod : (shift * 2 ^ 52 + 2 ^ 53) % 2 ^ 52 = 0 := by omega
    rw [hdiv, hmod, if_neg (by omega), Nat.shiftLeft_eq, show shift + 2 - 1 = shift + 1 by omega, pow_succ]
    ring

/-- Every magnitude is a shift and a quotient that can grow by one. -/
theorem exists_shift (m : Nat) :
    ∃ shift r, m = shift * leadingBit + r ∧ r + 1 ≤ 2 ^ 53 ∧ (shift = 0 ∨ 2 ^ 52 ≤ r) := by
  have hbit : leadingBit = 2 ^ 52 := rfl
  by_cases h : m < 2 ^ 52
  · exact ⟨0, m, by omega, by omega, Or.inl rfl⟩
  · refine ⟨m / 2 ^ 52 - 1, 2 ^ 52 + m % 2 ^ 52, ?_, by omega, Or.inr (by omega)⟩
    rw [hbit]
    omega

theorem unitsOf_mono : Monotone unitsOf := by
  refine monotone_nat_of_le_succ fun m => ?_
  obtain ⟨shift, r, rfl, hr, hs⟩ := exists_shift m
  rw [unitsOf_add (by omega) hs, Nat.add_assoc, unitsOf_add hr (hs.imp_right (by omega))]
  exact Nat.mul_le_mul_right _ (Nat.le_succ r)

/-! ## The nearest magnitude -/

theorem lt_shift (n : Nat) {d : Nat} (hd : 0 < d) : n < 2 ^ (53 + ((n / d).log2 - 52)) * d := by
  have h : n / d < 2 ^ ((n / d).log2 + 1) := Nat.lt_log2_self
  have hpow : 2 ^ ((n / d).log2 + 1) ≤ 2 ^ (53 + ((n / d).log2 - 52)) := Nat.pow_le_pow_right (by decide) (by omega)
  exact (Nat.div_lt_iff_lt_mul hd).1 (h.trans_le hpow)

theorem shift_le (n : Nat) {d : Nat} (hd : 0 < d) (h : (n / d).log2 - 52 ≠ 0) :
    2 ^ 52 * (d * 2 ^ ((n / d).log2 - 52)) ≤ n := by
  have hne : n / d ≠ 0 := by
    intro hzero
    rw [hzero] at h
    exact h rfl
  have hlog := Nat.log2_self_le hne
  have hpow : (2 : Nat) ^ (n / d).log2 = 2 ^ 52 * 2 ^ ((n / d).log2 - 52) := by
    rw [← pow_add]
    congr 1
    omega
  rw [hpow] at hlog
  calc 2 ^ 52 * (d * 2 ^ ((n / d).log2 - 52)) = 2 ^ 52 * 2 ^ ((n / d).log2 - 52) * d := by ring
    _ ≤ n := (Nat.le_div_iff_mul_le hd).1 hlog

/-- The rounded quotient of a nearest magnitude has at most 53 bits, and all of them if it is shifted. -/
theorem roundDiv_shift (n : Nat) {d : Nat} (hd : 0 < d) :
    roundDiv n (d <<< ((n / d).log2 - 52)) ≤ 2 ^ 53 ∧
      ((n / d).log2 - 52 = 0 ∨ 2 ^ 52 ≤ roundDiv n (d <<< ((n / d).log2 - 52))) := by
  have hlt := lt_shift n hd
  have hle := shift_le n hd
  rw [Nat.shiftLeft_eq]
  generalize (n / d).log2 - 52 = shift at hlt hle ⊢
  have hd' : 0 < d * 2 ^ shift := Nat.mul_pos hd (Nat.two_pow_pos _)
  constructor
  · refine roundDiv_le hd' ?_
    calc 2 * n < 2 * (2 ^ (53 + shift) * d) := Nat.mul_lt_mul_of_pos_left hlt (by decide)
      _ = d * 2 ^ shift * (2 * 2 ^ 53) := by rw [pow_add]; ring
      _ ≤ d * 2 ^ shift * (2 * 2 ^ 53 + 1) := Nat.mul_le_mul_left _ (Nat.le_succ _)
  · by_cases h : shift = 0
    · exact Or.inl h
    · exact Or.inr (le_roundDiv hd' (hle h))

theorem unitsOf_nearestMagnitude (n : Nat) {d : Nat} (hd : 0 < d) :
    unitsOf (nearestMagnitude n d) =
      roundDiv n (d <<< ((n / d).log2 - 52)) * 2 ^ ((n / d).log2 - 52) := by
  obtain ⟨hr, hs⟩ := roundDiv_shift n hd
  exact unitsOf_add hr hs

theorem nearestMagnitude_lt {n d : Nat} (hd : 0 < d) (h : 2 * n < d * ((2 ^ 54 - 1) * 2 ^ 2045)) :
    nearestMagnitude n d < infinity := by
  obtain ⟨hr, -⟩ := roundDiv_shift n hd
  have hshift : (n / d).log2 - 52 ≤ 2045 := by
    have hquot : n / d < 2 ^ 2098 := by
      rw [Nat.div_lt_iff_lt_mul hd]
      have hroom : (2 ^ 54 - 1) * 2 ^ 2045 ≤ 2 * 2 ^ 2098 := by
        calc (2 ^ 54 - 1) * 2 ^ 2045 ≤ 2 ^ 54 * 2 ^ 2045 := Nat.mul_le_mul_right _ (Nat.sub_le _ _)
          _ = 2 * 2 ^ 2098 := by rw [← pow_add, ← pow_succ']
      refine Nat.lt_of_mul_lt_mul_left (a := 2) ?_
      calc 2 * n < d * ((2 ^ 54 - 1) * 2 ^ 2045) := h
        _ ≤ d * (2 * 2 ^ 2098) := Nat.mul_le_mul_left d hroom
        _ = 2 * (2 ^ 2098 * d) := by rw [Nat.mul_left_comm, Nat.mul_comm d]
    by_cases hzero : n / d = 0
    · rw [hzero]
      exact Nat.zero_le _
    · have hlog : ∀ k, n / d < 2 ^ k → (n / d).log2 < k := fun k => (Nat.log2_lt hzero).2
      have := hlog 2098 hquot
      omega
  have hbit : leadingBit = 2 ^ 52 := rfl
  have hinf : infinity = 2047 * 2 ^ 52 := rfl
  unfold nearestMagnitude
  simp only [hbit, hinf]
  by_cases hmax : (n / d).log2 - 52 = 2045
  · rw [hmax, Nat.shiftLeft_eq]
    have hround : roundDiv n (d * 2 ^ 2045) ≤ 2 ^ 53 - 1 := by
      refine roundDiv_le (Nat.mul_pos hd (pow_pos (by decide) 2045)) ?_
      have hbits : 2 * (2 ^ 53 - 1) + 1 = 2 ^ 54 - 1 := rfl
      rw [hbits, Nat.mul_assoc, Nat.mul_comm (2 ^ 2045)]
      exact h
    have hlast : 2045 * 2 ^ 52 + (2 ^ 53 - 1) < 2047 * 2 ^ 52 := by norm_num
    exact (Nat.add_le_add_left hround _).trans_lt hlast
  · omega

/-! ## Finite products -/

theorem unitsInOne_pos : 0 < unitsInOne := by decide +kernel

theorem units_nearestMagnitude_le (n : Nat) : 2 ^ 53 * unitsOf (nearestMagnitude n 1) ≤ (2 ^ 53 + 1) * n := by
  rw [unitsOf_nearestMagnitude n Nat.one_pos]
  have hle := shift_le n Nat.one_pos
  rw [Nat.shiftLeft_eq, Nat.one_mul]
  generalize (n / 1).log2 - 52 = shift at hle ⊢
  by_cases h : shift = 0
  · rw [h, Nat.pow_zero, roundDiv_one, Nat.mul_one]
    exact Nat.mul_le_mul_right n (Nat.le_succ _)
  · have hround := two_mul_roundDiv_le n (Nat.two_pow_pos shift)
    have hle := hle h
    rw [Nat.one_mul] at hle
    rw [Nat.mul_comm (roundDiv _ _)]
    generalize 2 ^ shift * roundDiv n (2 ^ shift) = rounded at hround ⊢
    generalize 2 ^ shift = step at hround hle
    omega

namespace Binary64

/-- A natural number that is not too large grows by at most one part in `2 ^ 53` when it is rounded. -/
theorem units_ofNat_le {n : Nat} (h : 2 * (n * unitsInOne) < (2 ^ 54 - 1) * 2 ^ 2045) :
    2 ^ 53 * (ofNat n).units ≤ (2 ^ 53 + 1) * (n * unitsInOne) := by
  have hlt : nearestMagnitude (n * unitsInOne) 1 < infinity := nearestMagnitude_lt Nat.one_pos (by rwa [Nat.one_mul])
  have hunits : (ofNat n).units = unitsOf (nearestMagnitude (n * unitsInOne) 1) := by
    rw [ofNat, nearest, nearest?]
    simp only [hlt, dif_pos, Option.getD_some]
    rfl
  rw [hunits]
  exact units_nearestMagnitude_le _

/-- Two factors that grew by one part in `2 ^ 53` leave room for one rounding more. -/
theorem two_mul_product_lt {a b x y one top : Nat} (hone : 0 < one) (htop : 0 < top)
    (hx : 2 ^ 53 * x ≤ (2 ^ 53 + 1) * (a * one)) (hy : 2 ^ 53 * y ≤ (2 ^ 53 + 1) * (b * one))
    (h : a * b * (2 * one) ≤ (2 ^ 54 - 5) * top) : 2 * (x * y) < one * ((2 ^ 54 - 1) * top) := by
  have hroom : (2 ^ 53 + 1) * (2 ^ 53 + 1) * (2 ^ 54 - 5) < 2 ^ 53 * 2 ^ 53 * (2 ^ 54 - 1) := by norm_num
  refine Nat.lt_of_mul_lt_mul_left (a := 2 ^ 53 * 2 ^ 53) ?_
  calc 2 ^ 53 * 2 ^ 53 * (2 * (x * y)) = 2 * ((2 ^ 53 * x) * (2 ^ 53 * y)) := by ring
    _ ≤ 2 * (((2 ^ 53 + 1) * (a * one)) * ((2 ^ 53 + 1) * (b * one))) := Nat.mul_le_mul_left _ (Nat.mul_le_mul hx hy)
    _ = (2 ^ 53 + 1) * (2 ^ 53 + 1) * one * (a * b * (2 * one)) := by ring
    _ ≤ (2 ^ 53 + 1) * (2 ^ 53 + 1) * one * ((2 ^ 54 - 5) * top) := Nat.mul_le_mul_left _ h
    _ = (2 ^ 53 + 1) * (2 ^ 53 + 1) * (2 ^ 54 - 5) * (one * top) := by ring
    _ < 2 ^ 53 * 2 ^ 53 * (2 ^ 54 - 1) * (one * top) := Nat.mul_lt_mul_of_pos_right hroom (Nat.mul_pos hone htop)
    _ = 2 ^ 53 * 2 ^ 53 * (one * ((2 ^ 54 - 1) * top)) := by ring

theorem mul?_isSome {a b : Nat} (ha : 2 * (a * unitsInOne) < (2 ^ 54 - 1) * 2 ^ 2045)
    (hb : 2 * (b * unitsInOne) < (2 ^ 54 - 1) * 2 ^ 2045)
    (h : a * b * (2 * unitsInOne) ≤ (2 ^ 54 - 5) * 2 ^ 2045) : ((ofNat a).mul? (ofNat b)).isSome := by
  have hlt : nearestMagnitude ((ofNat a).units * (ofNat b).units) unitsInOne < infinity :=
    nearestMagnitude_lt unitsInOne_pos
      (two_mul_product_lt unitsInOne_pos (pow_pos (by decide) 2045) (units_ofNat_le ha) (units_ofNat_le hb) h)
  rw [mul?, nearest?]
  simp only [hlt, dif_pos, Option.isSome_some]

end Binary64

/-! ## The shortest decimal -/

theorem readsAs_of_decimalOf? {magnitude : Nat} {first : Int} {places : Nat} {x : Decimal}
    (h : decimalOf? magnitude first places = some x) : x.readsAs magnitude = true := by
  simp only [decimalOf?] at h
  split at h
  · rename_i hlow hhigh
    split at h
    · obtain rfl := Option.some.inj h
      exact hlow
    · obtain rfl := Option.some.inj h
      exact hhigh
  · rename_i hlow _
    obtain rfl := Option.some.inj h
    exact hlow
  · rename_i _ hhigh
    obtain rfl := Option.some.inj h
    exact hhigh
  · cases h

theorem readsAs_shortest (magnitude : Nat) :
    (shortest magnitude).readsAs magnitude = true ∨ (shortest magnitude).digits = 0 := by
  unfold shortest
  simp only
  cases h : (List.range 17).findSome? (decimalOf? magnitude (decimalExponent magnitude)) with
  | none => exact Or.inr rfl
  | some x =>
    obtain ⟨places, -, hx⟩ := List.exists_of_findSome?_eq_some h
    exact Or.inl (readsAs_of_decimalOf? hx)

/-- What reads back is not above the middle to the next magnitude. -/
theorem numerator_le_of_readsAs {x : Decimal} {magnitude : Nat} (h : x.readsAs magnitude = true) :
    x.numerator ≤ (unitsOf magnitude + unitsOf (magnitude + 1)) * x.denominator := by
  simp only [Decimal.readsAs] at h
  split at h
  · simp only [Bool.and_eq_true, decide_eq_true_eq] at h
    exact h.2
  · simp only [Bool.and_eq_true, decide_eq_true_eq] at h
    exact h.2.le

theorem numerator_shortest_le (magnitude : Nat) :
    (shortest magnitude).numerator ≤
      (unitsOf magnitude + unitsOf (magnitude + 1)) * (shortest magnitude).denominator := by
  rcases readsAs_shortest magnitude with h | h
  · exact numerator_le_of_readsAs h
  · rw [Decimal.numerator, h, Nat.zero_mul, Nat.zero_mul]
    exact Nat.zero_le _

/-- But for the two largest magnitudes, the middle to the next one leaves room for three roundings. -/
theorem middle_le {magnitude : Nat} (h : magnitude ≤ infinity - 3) :
    unitsOf magnitude + unitsOf (magnitude + 1) ≤ (2 ^ 54 - 5) * 2 ^ 2045 := by
  have hlow := unitsOf_mono h
  have hhigh := unitsOf_mono (Nat.add_le_add_right h 1)
  have hlast : unitsOf (infinity - 3) + unitsOf (infinity - 3 + 1) = (2 ^ 54 - 5) * 2 ^ 2045 := by decide +kernel
  omega

end TransferRegistry.Number
