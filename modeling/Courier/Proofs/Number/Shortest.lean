import Courier.Number.Shortest
import Courier.Proofs.Number.Digits
import Courier.Proofs.Number.Nearest
import Mathlib.Algebra.Order.Floor.Semifield
import Mathlib.Data.Rat.Floor

/-! The shortest decimal of a double lies in its rounding interval, and so it is rounded to that double.
Seventeen digits suffice because the decimals of so many digits lie closer to each other than the interval
is wide. -/

namespace Courier

theorem Decimal.toRat_eq (x : Decimal) : x.toRat = x.digits * (10 : ℚ) ^ x.exponent :=
  shifted_eq (by norm_num) x.digits x.exponent

section Logarithms

/-- Two fractions on either side of the logarithm of two, 31 / 103 and 28 / 93, tell whether a power of
ten is at most a power of two. -/
theorem ten_zpow_le_two_zpow {k f : Int} (h : 103 * k ≤ 31 * f) (h' : 93 * k ≤ 28 * f) :
    (10 : ℚ) ^ k ≤ 2 ^ f := by
  have hk (n : Nat) : ((10 : ℚ) ^ k) ^ n = 10 ^ (n * k) := by
    rw [← zpow_natCast, ← zpow_mul, mul_comm]
  have hten (a : Int) : (10 : ℚ) ^ (a * f) = (10 ^ a) ^ f := zpow_mul 10 a f
  obtain ⟨j, rfl | rfl⟩ := f.eq_nat_or_neg
  · refine le_of_pow_le_pow_left₀ (n := 103) (by norm_num) (by positivity) ?_
    calc ((10 : ℚ) ^ k) ^ 103
      _ = 10 ^ (103 * k) := hk 103
      _ ≤ 10 ^ (31 * (j : Int)) := zpow_le_zpow_right₀ (by norm_num) h
      _ = (10 ^ 31) ^ j := by rw [zpow_mul, zpow_natCast]; norm_num
      _ ≤ (2 ^ 103) ^ j := pow_le_pow_left₀ (by norm_num) (by norm_num) j
      _ = (2 ^ (j : Int)) ^ 103 := by rw [zpow_natCast, ← pow_mul, ← pow_mul, mul_comm]
  · refine le_of_pow_le_pow_left₀ (n := 93) (by norm_num) (by positivity) ?_
    calc ((10 : ℚ) ^ k) ^ 93
      _ = 10 ^ (93 * k) := hk 93
      _ ≤ 10 ^ (28 * -(j : Int)) := zpow_le_zpow_right₀ (by norm_num) h'
      _ = ((10 ^ 28) ^ j)⁻¹ := by rw [zpow_mul, zpow_neg, zpow_natCast]; norm_num
      _ ≤ ((2 ^ 93) ^ j)⁻¹ :=
        inv_anti₀ (by positivity) (pow_le_pow_left₀ (by norm_num) (by norm_num) j)
      _ = (2 ^ (-(j : Int))) ^ 93 := by
        rw [zpow_neg, zpow_natCast, inv_pow, ← pow_mul, ← pow_mul, mul_comm]

theorem ten_zpow_floorLog10_le {n d : Nat} (hn : 0 < n) (hd : 0 < d)
    (hlow : (2 : ℚ) ^ (-1074 : Int) ≤ n / d) (hhigh : (n : ℚ) / d < 2 ^ (1024 : Int)) :
    (10 : ℚ) ^ floorLog10 n d ≤ n / d := by
  have hle := two_zpow_floorLog2_le hn hd
  have hmin : -1074 < floorLog2 n d + 1 :=
    (zpow_lt_zpow_iff_right₀ one_lt_two).mp (hlow.trans_lt (lt_two_zpow_floorLog2 hd))
  have hmax : floorLog2 n d < 1024 :=
    (zpow_lt_zpow_iff_right₀ one_lt_two).mp (hle.trans_lt hhigh)
  simp only [floorLog10, decide_eq_true_eq]
  split_ifs with h3 h2 h1
  · exact (zpow_le_div_iff (by norm_num) hd _).mp h3
  · exact (zpow_le_div_iff (by norm_num) hd _).mp h2
  · exact (zpow_le_div_iff (by norm_num) hd _).mp h1
  · exact (ten_zpow_le_two_zpow (by omega) (by omega)).trans hle

end Logarithms

section Interval

variable {m : Nat} {e : Int}

theorem gapBelow_pos (m : Nat) (e : Int) : 0 < gapBelow m e := by
  rw [gapBelow]
  split <;> norm_num

theorem around_self (m : Nat) (e : Int) : Around (gapBelow m e) m m :=
  .inl ⟨by linarith [gapBelow_pos m e], by linarith⟩

theorem natAbs_pos {v : ℚ} (h : 0 < v) : 0 < v.num.natAbs :=
  Int.natAbs_pos.mpr (Rat.num_pos.mpr h).ne'

theorem roundingInterval_eq (h : Magnitude m e) :
    roundingInterval (m * 2 ^ e) =
      ((m - gapBelow m e) * 2 ^ e, (m + 1 / 2 : ℚ) * 2 ^ e, decide (m % 2 = 0)) := by
  have hpos := h.value_pos
  have hp : (0 : ℚ) < 2 ^ e := by positivity
  have hunits : (m : ℚ) * 2 ^ e / 2 ^ e = m := mul_div_cancel_right₀ _ hp.ne'
  have hself : Around (gapBelow m e) m (m * 2 ^ e / 2 ^ e) := by
    rw [hunits]
    exact around_self m e
  have hfull : (2 : ℚ) ^ (e + 52) ≤ m * 2 ^ e ∨ e = -1074 := by
    rcases h.full with hm | he
    · left
      have hm' : ((2 : ℚ) ^ (52 : Int)) ≤ m := by exact_mod_cast hm
      rw [zpow_add₀ two_ne_zero, mul_comm]
      gcongr
    · exact .inr he
  have hlt := h.lt_of_around hself
  rw [sub_mul, add_mul]
  generalize hv : (m : ℚ) * 2 ^ e = v at *
  have hquotient : (v.num.natAbs : ℚ) / v.den = v := by rw [natAbs_div_den, abs_of_pos hpos]
  have hplace : lastPlace v.num.natAbs v.den = e :=
    lastPlace_eq (natAbs_pos hpos) v.den_pos h.least (by rwa [hquotient]) (by rwa [hquotient])
  have hsig : significand v.num.natAbs v.den = m := by
    apply significand_eq v.den_pos hplace
    rw [hquotient, hunits]
    exact .inl ⟨by linarith, by linarith⟩
  have hhalf (i : Nat) : scaled 1 (e - i) = 1 / 2 ^ i * 2 ^ e := by
    rw [scaled_eq, zpow_sub₀ two_ne_zero, zpow_natCast]
    ring
  have h1 := hhalf 1
  have h2 := hhalf 2
  have hpower : power 2 52 = 2 ^ 52 := rfl
  norm_num only at h1 h2
  simp only [roundingInterval, hplace, hsig, h1, h2, hpower, gapBelow]
  split <;> norm_num

section Neighbours

variable {p : Decimal → Bool} {below above : Decimal} {nearer : Prop} [Decidable nearer]

/-- The neighbour that passes a test, and the nearer one if both do. -/
theorem passes_of_chosen {x : Decimal}
    (hx : (if p below && p above then some (if nearer then below else above)
      else if p below then some below else if p above then some above else none) = some x) :
    p x = true := by
  by_cases hb : p below = true
  · by_cases ha : p above = true
    · by_cases hn : nearer <;> simp_all
    · simp_all
  · by_cases ha : p above = true <;> simp_all

theorem chosen_isSome (h : p below = true ∨ p above = true) :
    (if p below && p above then some (if nearer then below else above)
      else if p below then some below else if p above then some above else none).isSome = true := by
  rcases h with h | h
  · by_cases ha : p above = true <;> simp [h, ha]
  · by_cases hb : p below = true <;> simp [h, hb]

end Neighbours

/-- The test of the neighbours on a grid. -/
def insideTest (m : Nat) (e : Int) (x : Decimal) : Bool :=
  if decide (m % 2 = 0) then
    (m - gapBelow m e) * 2 ^ e ≤ x.toRat ∧ x.toRat ≤ (m + 1 / 2 : ℚ) * 2 ^ e
  else (m - gapBelow m e) * 2 ^ e < x.toRat ∧ x.toRat < (m + 1 / 2 : ℚ) * 2 ^ e

theorem insideTest_iff (m : Nat) (e : Int) (x : Decimal) :
    insideTest m e x = true ↔ Around (gapBelow m e) m (x.toRat / 2 ^ e) := by
  have hp : (0 : ℚ) < 2 ^ e := by positivity
  rw [insideTest, Around, le_div_iff₀ hp, lt_div_iff₀ hp, div_le_iff₀ hp, div_lt_iff₀ hp]
  by_cases hm : m % 2 = 0
  · simp only [hm, decide_true, if_true, decide_eq_true_eq, true_and]
    exact ⟨.inr, fun h => h.elim (fun h => ⟨h.1.le, h.2.le⟩) id⟩
  · simp [hm]

theorem around_of_nearestOnGrid (h : Magnitude m e) {k : Int} {x : Decimal}
    (hx : nearestOnGrid (m * 2 ^ e) k = some x) :
    Around (gapBelow m e) m (x.toRat / 2 ^ e) := by
  rw [nearestOnGrid, roundingInterval_eq h] at hx
  exact (insideTest_iff m e x).mp (passes_of_chosen (p := insideTest m e) hx)

/-- The multiples of a power of ten that is small enough are closer than the interval is wide. -/
theorem grid_lt (h : Magnitude m e) {k : Int} (hk : (10 : ℚ) ^ k * 10 ^ 16 ≤ m * 2 ^ e) :
    (10 : ℚ) ^ k / 2 ^ e < gapBelow m e + 1 / 2 := by
  have hp : (0 : ℚ) < 2 ^ e := by positivity
  have hm := h.cast_lt
  have hunits : (10 : ℚ) ^ k / 2 ^ e * 10 ^ 16 ≤ m := by
    rw [div_mul_eq_mul_div, div_le_iff₀ hp]
    exact hk
  rw [gapBelow]
  split
  next hfirst =>
    rw [hfirst.1] at hunits
    push_cast at hunits
    linarith
  next => linarith

theorem nearestOnGrid_isSome (h : Magnitude m e) {k : Int}
    (hk : (10 : ℚ) ^ k * 10 ^ 16 ≤ m * 2 ^ e) : (nearestOnGrid (m * 2 ^ e) k).isSome = true := by
  have hp : (0 : ℚ) < 2 ^ e := by positivity
  have hten : (0 : ℚ) < 10 ^ k := by positivity
  have hwidth := grid_lt h hk
  have hpos := h.value_pos
  -- The neighbours of the value on the grid, in units of its last place.
  have hfloor : ∃ n : Nat, n = ((m * 2 ^ e : ℚ).num.natAbs * power 10 (-k).toNat) /
      ((m * 2 ^ e : ℚ).den * power 10 k.toNat) ∧
      n * ((10 : ℚ) ^ k / 2 ^ e) ≤ m ∧ m < (n + 1 : ℚ) * (10 ^ k / 2 ^ e) := by
    refine ⟨_, rfl, ?_⟩
    rw [← Nat.floor_div_eq_div (K := ℚ), shifted_div (by norm_num), natAbs_div_den,
      abs_of_pos hpos]
    have hquotient : (m * 2 ^ e : ℚ) / 10 ^ k * (10 ^ k / 2 ^ e) = m := by field_simp
    constructor
    · calc _ ≤ (m * 2 ^ e : ℚ) / 10 ^ k * (10 ^ k / 2 ^ e) := by
            gcongr
            exact Nat.floor_le (by positivity)
        _ = m := hquotient
    · calc (m : ℚ) = (m * 2 ^ e : ℚ) / 10 ^ k * (10 ^ k / 2 ^ e) := hquotient.symm
        _ < _ := by
          gcongr
          exact Nat.lt_floor_add_one _
  obtain ⟨n, hn, hbelow, habove⟩ := hfloor
  rw [nearestOnGrid, roundingInterval_eq h, ← hn]
  refine chosen_isSome (p := insideTest m e) ?_
  rw [insideTest_iff, insideTest_iff, Decimal.toRat_eq, Decimal.toRat_eq, mul_div_assoc,
    mul_div_assoc]
  push_cast
  by_cases hnear : m - gapBelow m e < n * ((10 : ℚ) ^ k / 2 ^ e)
  · exact .inl (.inl ⟨hnear, by linarith⟩)
  · have hgap := gapBelow_pos m e
    exact .inr (.inl ⟨by linarith, by linarith⟩)

theorem around_shortestDecimal (h : Magnitude m e) :
    Around (gapBelow m e) m ((shortestDecimal (m * 2 ^ e)).toRat / 2 ^ e) := by
  have hpos := h.value_pos
  have hquotient : ((m * 2 ^ e : ℚ).num.natAbs : ℚ) / (m * 2 ^ e : ℚ).den = m * 2 ^ e := by
    rw [natAbs_div_den, abs_of_pos hpos]
  have htop := ten_zpow_floorLog10_le (natAbs_pos hpos) (m * 2 ^ e : ℚ).den_pos
    (by rw [hquotient]; exact h.least_le) (by rw [hquotient]; exact_mod_cast h.value_lt)
  rw [hquotient] at htop
  -- The search may end sooner, but with seventeen digits it finds one at the latest.
  have hsome : (nearestOnGrid (m * 2 ^ e)
      (floorLog10 (m * 2 ^ e : ℚ).num.natAbs (m * 2 ^ e : ℚ).den - (16 : Nat))).isSome = true := by
    apply nearestOnGrid_isSome h
    rw [zpow_sub₀ (by norm_num), zpow_natCast, div_mul_cancel₀ _ (by norm_num)]
    exact htop
  have hfound : ((List.range 17).findSome? fun (k : Nat) => nearestOnGrid (m * 2 ^ e)
      (floorLog10 (m * 2 ^ e : ℚ).num.natAbs (m * 2 ^ e : ℚ).den - k)).isSome = true :=
    List.findSome?_isSome_iff.mpr ⟨16, by simp, hsome⟩
  obtain ⟨x, hx⟩ := Option.isSome_iff_exists.mp hfound
  obtain ⟨k, -, hk⟩ := List.exists_of_findSome?_eq_some hx
  rw [shortestDecimal, hx]
  exact around_of_nearestOnGrid h hk

end Interval

end Courier
