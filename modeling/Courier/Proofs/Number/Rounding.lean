import Courier.Number.Double
import Mathlib.Algebra.Order.Field.Power
import Mathlib.Data.Nat.Cast.Order.Field
import Mathlib.Tactic.FieldSimp
import Mathlib.Tactic.Linarith
import Mathlib.Tactic.NormNum
import Mathlib.Tactic.Positivity
import Mathlib.Tactic.Ring

/-! The size of rounded numbers. A magnitude is at most doubled, and one more, by rounding, so that
nothing of a moderate size becomes infinite. -/

namespace Courier

theorem cast_power (b e : Nat) : ((power b e : Nat) : ℚ) = (b : ℚ) ^ e := by
  simp only [power, Nat.pow_eq, Nat.cast_pow]

theorem natAbs_div_den (q : ℚ) : (q.num.natAbs : ℚ) / q.den = |q| := by
  conv_rhs => rw [← Rat.num_div_den q]
  rw [abs_div, Nat.abs_cast, Nat.cast_natAbs, Int.cast_abs]

theorem pow_toNat {b : ℚ} (hb : b ≠ 0) (e : Int) : b ^ e.toNat = b ^ e * b ^ (-e).toNat := by
  rw [← zpow_natCast, ← zpow_natCast, ← zpow_add₀ hb]
  congr 1
  omega

/-- A whole number times a power of a base, written without negative powers. -/
theorem shifted_eq {b : Nat} (hb : 0 < b) (m : Nat) (e : Int) :
    (if 0 ≤ e then ((m * power b e.toNat : Nat) : ℚ) else mkRat m (power b (-e).toNat)) =
      m * (b : ℚ) ^ e := by
  have hb' : (b : ℚ) ≠ 0 := by exact_mod_cast hb.ne'
  have h := pow_toNat hb' e
  split
  next he =>
    rw [show (-e).toNat = 0 by omega, pow_zero, mul_one] at h
    rw [Nat.cast_mul, cast_power, h]
  next he =>
    rw [show e.toNat = 0 by omega, pow_zero] at h
    rw [Rat.mkRat_eq_div, Int.cast_natCast, cast_power, div_eq_iff (by positivity), mul_assoc, ← h,
      mul_one]

theorem scaled_eq (m : Nat) (e : Int) : scaled m e = m * (2 : ℚ) ^ e :=
  shifted_eq two_pos m e

/-- A quotient in units of a power of a base, with the power on the side where it is whole. -/
theorem shifted_div {b : Nat} (hb : 0 < b) (n d : Nat) (e : Int) :
    ((n * power b (-e).toNat : Nat) : ℚ) / ((d * power b e.toNat : Nat) : ℚ) =
      n / d / (b : ℚ) ^ e := by
  have hb' : (b : ℚ) ≠ 0 := by exact_mod_cast hb.ne'
  rw [Nat.cast_mul, Nat.cast_mul, cast_power, cast_power, pow_toNat hb' e]
  field_simp

/-- Whether a power of a base is at most a quotient, asked of whole numbers. -/
theorem zpow_le_div_iff {b : Nat} (hb : 0 < b) {n d : Nat} (hd : 0 < d) (e : Int) :
    d * power b e.toNat ≤ n * power b (-e).toNat ↔ (b : ℚ) ^ e ≤ n / d := by
  have hd' : (0 : ℚ) < ((d * power b e.toNat : Nat) : ℚ) := by
    rw [Nat.cast_mul, cast_power]
    positivity
  have hp : (0 : ℚ) < (b : ℚ) ^ e := by positivity
  rw [← Nat.cast_le (α := ℚ), ← one_le_div hd', shifted_div hb, one_le_div hp]

section Magnitudes

variable {n d : Nat}

theorem two_zpow_floorLog2_le (hn : 0 < n) (hd : 0 < d) : (2 : ℚ) ^ floorLog2 n d ≤ n / d := by
  have hd' : (0 : ℚ) < d := by exact_mod_cast hd
  rw [floorLog2]
  split
  next h => exact (zpow_le_div_iff two_pos hd _).mp h
  next h =>
    have h1 : (2 : ℚ) ^ n.log2 ≤ n := by exact_mod_cast Nat.log2_self_le hn.ne'
    have h2 : (d : ℚ) ≤ 2 ^ (d.log2 + 1) := by exact_mod_cast (Nat.lt_log2_self (n := d)).le
    rw [le_div_iff₀ hd']
    calc (2 : ℚ) ^ ((n.log2 : Int) - d.log2 - 1) * d
      _ ≤ 2 ^ ((n.log2 : Int) - d.log2 - 1) * 2 ^ (d.log2 + 1) := by gcongr
      _ = 2 ^ n.log2 := by
        rw [← zpow_natCast, ← zpow_add₀ two_ne_zero, ← zpow_natCast]
        congr 1
        push_cast
        ring
      _ ≤ n := h1

theorem lt_two_zpow_floorLog2 (hd : 0 < d) : (n : ℚ) / d < 2 ^ (floorLog2 n d + 1) := by
  have hd' : (0 : ℚ) < d := by exact_mod_cast hd
  rw [floorLog2]
  split
  next h =>
    have h1 : (n : ℚ) < 2 ^ (n.log2 + 1) := by exact_mod_cast Nat.lt_log2_self
    have h2 : (2 : ℚ) ^ d.log2 ≤ d := by exact_mod_cast Nat.log2_self_le hd.ne'
    rw [div_lt_iff₀ hd']
    calc (n : ℚ)
      _ < 2 ^ (n.log2 + 1) := h1
      _ = 2 ^ ((n.log2 : Int) - d.log2 + 1) * 2 ^ d.log2 := by
        rw [← zpow_natCast, ← zpow_natCast, ← zpow_add₀ two_ne_zero]
        congr 1
        push_cast
        ring
      _ ≤ 2 ^ ((n.log2 : Int) - d.log2 + 1) * d := by gcongr
  next h =>
    rw [sub_add_cancel, ← not_le]
    exact fun hle => h ((zpow_le_div_iff two_pos hd _).mpr hle)

theorem roundDiv_le (n d : Nat) : (roundDiv n d : ℚ) ≤ n / d + 1 := by
  have h : roundDiv n d ≤ n / d + 1 := by
    simp only [roundDiv]
    split <;> omega
  calc (roundDiv n d : ℚ)
    _ ≤ ((n / d : Nat) : ℚ) + 1 := by exact_mod_cast h
    _ ≤ n / d + 1 := by gcongr; exact Nat.cast_div_le

/-- The last place of a magnitude is not greater than the magnitude itself, or than one. -/
theorem two_zpow_lastPlace_le (hn : 0 < n) (hd : 0 < d) :
    (2 : ℚ) ^ lastPlace n d ≤ n / d + 1 := by
  have h0 : (0 : ℚ) ≤ n / d := by positivity
  rcases max_cases (floorLog2 n d - 52) (-1074) with ⟨h, _⟩ | ⟨h, _⟩
  · calc (2 : ℚ) ^ lastPlace n d
      _ = 2 ^ (floorLog2 n d - 52) := by rw [lastPlace, h]
      _ ≤ 2 ^ floorLog2 n d := zpow_le_zpow_right₀ one_le_two (by omega)
      _ ≤ n / d := two_zpow_floorLog2_le hn hd
      _ ≤ n / d + 1 := by linarith
  · calc (2 : ℚ) ^ lastPlace n d
      _ = 2 ^ (-1074 : Int) := by rw [lastPlace, h]
      _ ≤ 2 ^ (0 : Int) := zpow_le_zpow_right₀ one_le_two (by omega)
      _ ≤ n / d + 1 := by rw [zpow_zero]; linarith

theorem scaled_significand_le (hn : 0 < n) (hd : 0 < d) :
    scaled (significand n d) (lastPlace n d) ≤ 2 * (n / d) + 1 := by
  have hd' : (0 : ℚ) < d := by exact_mod_cast hd
  have hp : (0 : ℚ) < 2 ^ lastPlace n d := by positivity
  have hr := roundDiv_le (n * power 2 (-lastPlace n d).toNat) (d * power 2 (lastPlace n d).toNat)
  have hq := shifted_div two_pos n d (lastPlace n d)
  calc scaled (significand n d) (lastPlace n d)
    _ = significand n d * (2 : ℚ) ^ lastPlace n d := scaled_eq _ _
    _ ≤ (((n * power 2 (-lastPlace n d).toNat : Nat) : ℚ) /
        ((d * power 2 (lastPlace n d).toNat : Nat) : ℚ) + 1) * 2 ^ lastPlace n d := by
      gcongr
      exact hr
    _ = n / d + 2 ^ lastPlace n d := by
      rw [add_mul, hq, Nat.cast_ofNat, div_mul_cancel₀ _ hp.ne', one_mul]
    _ ≤ 2 * (n / d) + 1 := by linarith [two_zpow_lastPlace_le hn hd]

end Magnitudes

namespace Double

theorem ofMagnitude_bounded {n d : Nat} (negative : Bool) (hd : 0 < d)
    (h : (n : ℚ) / d ≤ 2 ^ 200) :
    ∃ v, (ofMagnitude negative n d).toRat? = some v ∧ |v| ≤ 2 * (n / d) + 1 := by
  simp only [ofMagnitude]
  by_cases hz : n = 0 ∨ significand n d = 0
  · rw [if_pos hz]
    refine ⟨0, ?_, by rw [abs_zero]; positivity⟩
    cases negative <;> rfl
  · have hs := scaled_significand_le (Nat.pos_of_ne_zero fun hn => hz (.inl hn)) hd
    have hn : 0 ≤ scaled (significand n d) (lastPlace n d) := by
      rw [scaled_eq]
      positivity
    have hi : ¬ ((power 2 1024 : Nat) : ℚ) ≤ scaled (significand n d) (lastPlace n d) := by
      rw [cast_power, Nat.cast_ofNat, not_le]
      calc scaled (significand n d) (lastPlace n d)
        _ ≤ 2 * (n / d) + 1 := hs
        _ ≤ 2 * 2 ^ 200 + 1 := by linarith
        _ ≤ 2 ^ 202 := by norm_num
        _ < 2 ^ 1024 := pow_lt_pow_right₀ one_lt_two (by decide)
    rw [if_neg hz, if_neg hi]
    refine ⟨_, rfl, ?_⟩
    cases negative with
    | false => simpa [abs_of_nonneg hn] using hs
    | true => simpa [abs_of_nonneg hn] using hs

/-- A number of moderate size is finite when it is rounded. -/
theorem ofRat_bounded {q : ℚ} (h : |q| ≤ 2 ^ 200) :
    ∃ v, (ofRat q).toRat? = some v ∧ |v| ≤ 2 * |q| + 1 := by
  rw [← natAbs_div_den] at h ⊢
  exact ofMagnitude_bounded _ q.den_pos h

theorem add_bounded {x y : Double} {a b : ℚ} (hx : x.toRat? = some a) (hy : y.toRat? = some b)
    (h : |a + b| ≤ 2 ^ 200) : ∃ v, (x.add y).toRat? = some v ∧ |v| ≤ 2 * |a + b| + 1 := by
  cases x with
  | nan | infinite => cases hx
  | negativeZero =>
    cases hx
    cases y with
    | nan | infinite => cases hy
    | negativeZero =>
      cases hy
      exact ⟨0, rfl, by simp⟩
    | finite b =>
      cases hy
      rw [zero_add] at h ⊢
      exact ofRat_bounded h
  | finite a =>
    cases hx
    cases y with
    | nan | infinite => cases hy
    | negativeZero =>
      cases hy
      rw [add_zero] at h ⊢
      exact ofRat_bounded h
    | finite b =>
      cases hy
      exact ofRat_bounded h

theorem neg_toRat? {x : Double} {a : ℚ} (h : x.toRat? = some a) : x.neg.toRat? = some (-a) := by
  cases x with
  | nan | infinite => cases h
  | negativeZero =>
    cases h
    rfl
  | finite a =>
    cases h
    by_cases h0 : a = 0
    · simp [neg, h0, toRat?]
    · simp [neg, h0, toRat?]

theorem sub_bounded {x y : Double} {a b : ℚ} (hx : x.toRat? = some a) (hy : y.toRat? = some b)
    (h : |a - b| ≤ 2 ^ 200) : ∃ v, (x.sub y).toRat? = some v ∧ |v| ≤ 2 * |a - b| + 1 := by
  rw [sub_eq_add_neg] at h ⊢
  exact add_bounded hx (neg_toRat? hy) h

theorem mul_bounded {x y : Double} {a b : ℚ} (hx : x.toRat? = some a) (hy : y.toRat? = some b)
    (h : |a * b| ≤ 2 ^ 200) : ∃ v, (x.mul y).toRat? = some v ∧ |v| ≤ 2 * |a * b| + 1 := by
  simp only [mul, hx, hy]
  by_cases h0 : a * b = 0
  · rw [if_pos h0]
    refine ⟨0, ?_, by simp [h0]⟩
    cases x.isNegative != y.isNegative <;> rfl
  · rw [if_neg h0]
    exact ofRat_bounded h

/-- What is not finite stays so whatever is added. -/
theorem isFinite_of_add {x y : Double} (h : (x.add y).isFinite = true) : x.isFinite = true := by
  cases x with
  | nan => cases y <;> simp [add, isFinite, toRat?] at h
  | infinite s =>
    cases y with
    | infinite t => by_cases hst : s = t <;> simp [add, isFinite, toRat?, hst] at h
    | _ => simp [add, isFinite, toRat?] at h
  | negativeZero | finite => rfl

theorem ofRat_ne_nan (q : ℚ) : ofRat q ≠ nan := by
  unfold ofRat ofMagnitude
  dsimp only
  split
  · cases decide (q < 0) <;> simp [signedZero]
  · split <;> simp

theorem sub_ne_nan {x y : Double} (hx : x.isFinite = true) (hy : y.isFinite = true) :
    x.sub y ≠ nan := by
  obtain ⟨b, hb⟩ := Option.isSome_iff_exists.mp hy
  have hn : y.neg.isFinite = true := by simp [isFinite, neg_toRat? hb]
  rw [sub]
  cases x with
  | nan | infinite => simp [isFinite, toRat?] at hx
  | negativeZero | finite =>
    cases hm : y.neg with
    | nan | infinite => simp [isFinite, toRat?, hm] at hn
    | negativeZero | finite => simp [add, ofRat_ne_nan]

end Double

theorem abs_roundHalfEven_le (q : ℚ) : |(roundHalfEven q : ℚ)| ≤ |q| + 1 := by
  have h := roundDiv_le q.num.natAbs q.den
  rw [natAbs_div_den] at h
  simp only [roundHalfEven]
  split
  · rwa [Int.cast_neg, abs_neg, Int.cast_natCast, Nat.abs_cast]
  · rwa [Int.cast_natCast, Nat.abs_cast]

theorem abs_sub_truncate_le (q : ℚ) : |q - truncate q| ≤ 1 := by
  have h1 : ((q.num.natAbs / q.den : Nat) : ℚ) ≤ |q| := by
    rw [← natAbs_div_den]
    exact Nat.cast_div_le
  have h2 : |q| ≤ ((q.num.natAbs / q.den : Nat) : ℚ) + 1 := by
    rw [← natAbs_div_den, div_le_iff₀ (by exact_mod_cast q.den_pos)]
    exact_mod_cast (Nat.lt_mul_div_succ q.num.natAbs q.den_pos).le.trans_eq (Nat.mul_comm _ _)
  rw [abs_le]
  simp only [truncate]
  split
  next hq =>
    rw [abs_of_neg hq] at h1 h2
    rw [Int.cast_neg, Int.cast_natCast]
    constructor <;> linarith
  next hq =>
    rw [abs_of_nonneg (not_lt.mp hq)] at h1 h2
    rw [Int.cast_natCast]
    constructor <;> linarith

end Courier
