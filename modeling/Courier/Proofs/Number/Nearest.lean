import Courier.Proofs.Number.Digits
import Courier.Proofs.Number.Rounding

/-! Rounding to the nearest double. Whatever lies in the rounding interval of a double is rounded to it.
The interval is measured in units of the double's last place, where it reaches half a unit up and down,
or a quarter down from a power of two, below which the doubles lie closer. -/

namespace Courier

/-- `x` is from `m - below` to `m + 1 / 2`, and is an end only if `m` is even. -/
def Around (below : ℚ) (m : Nat) (x : ℚ) : Prop :=
  (m - below < x ∧ x < m + 1 / 2) ∨ (m % 2 = 0 ∧ m - below ≤ x ∧ x ≤ m + 1 / 2)

theorem Around.le {below x : ℚ} {m : Nat} (h : Around below m x) :
    m - below ≤ x ∧ x ≤ m + 1 / 2 := by
  rcases h with h | h
  · exact ⟨h.1.le, h.2.le⟩
  · exact h.2

theorem roundDiv_eq {n d m : Nat} (hd : 0 < d) (h : Around (1 / 2) m (n / d)) :
    roundDiv n d = m := by
  have hd' : (0 : ℚ) < d := by exact_mod_cast hd
  -- The bounds on the quotient, times twice the divisor.
  have hbounds : 2 * (d * m) ≤ 2 * n + d ∧ 2 * n ≤ 2 * (d * m) + d ∧
      (m % 2 = 0 ∨ 2 * (d * m) < 2 * n + d ∧ 2 * n < 2 * (d * m) + d) := by
    have hle := h.le
    rw [le_div_iff₀ hd', div_le_iff₀ hd'] at hle
    refine ⟨?_, ?_, ?_⟩
    · have : (2 * (d * m) : ℚ) ≤ 2 * n + d := by linarith [hle.1]
      exact_mod_cast this
    · have : (2 * n : ℚ) ≤ 2 * (d * m) + d := by linarith [hle.2]
      exact_mod_cast this
    · rcases h with h | h
      · right
        rw [lt_div_iff₀ hd', div_lt_iff₀ hd'] at h
        constructor
        · have : (2 * (d * m) : ℚ) < 2 * n + d := by linarith [h.1]
          exact_mod_cast this
        · have : (2 * n : ℚ) < 2 * (d * m) + d := by linarith [h.2]
          exact_mod_cast this
      · exact .inl h.1
  obtain ⟨hlow, hhigh, hstrict⟩ := hbounds
  have hn := Nat.div_add_mod n d
  have hr := Nat.mod_lt n hd
  have hm : n / d ≤ m ∧ m ≤ n / d + 1 := by
    constructor
    · by_contra hlt
      have hmul : d * (m + 1) ≤ d * (n / d) := Nat.mul_le_mul_left d (by omega)
      rw [Nat.mul_succ] at hmul
      omega
    · by_contra hlt
      have hmul : d * (n / d + 2) ≤ d * m := Nat.mul_le_mul_left d (by omega)
      rw [Nat.mul_add] at hmul
      omega
  simp only [roundDiv]
  by_cases hq : m = n / d
  · rw [← hq] at hn ⊢
    rw [if_pos (by omega)]
  · have hq' : m = n / d + 1 := by omega
    have hmul : d * m = d * (n / d) + d := by rw [hq', Nat.mul_succ]
    rw [if_neg (by omega), hq']

section Places

variable {n d : Nat} {e : Int}

theorem lastPlace_eq (hn : 0 < n) (hd : 0 < d) (he : -1074 ≤ e) (hlt : (n : ℚ) / d < 2 ^ (e + 53))
    (hge : (2 : ℚ) ^ (e + 52) ≤ n / d ∨ e = -1074) : lastPlace n d = e := by
  have htop : floorLog2 n d < e + 53 :=
    (zpow_lt_zpow_iff_right₀ one_lt_two).mp ((two_zpow_floorLog2_le hn hd).trans_lt hlt)
  rcases hge with hge | rfl
  · have hlow : e + 52 < floorLog2 n d + 1 :=
      (zpow_lt_zpow_iff_right₀ one_lt_two).mp (hge.trans_lt (lt_two_zpow_floorLog2 hd))
    rw [lastPlace]
    omega
  · rw [lastPlace]
    omega

theorem significand_eq {m : Nat} (hd : 0 < d) (he : lastPlace n d = e)
    (h : Around (1 / 2) m (n / d / 2 ^ e)) : significand n d = m := by
  have hq := shifted_div two_pos n d e
  simp only [significand, he]
  apply roundDiv_eq
  · exact Nat.mul_pos hd (Nat.pow_pos two_pos)
  · rw [hq]
    exact h

end Places

/-- The magnitude `m * 2 ^ e` of a double, with a significand of 53 bits unless `e` is the least
exponent. -/
structure Magnitude (m : Nat) (e : Int) : Prop where
  pos : 0 < m
  lt : m < 2 ^ 53
  least : -1074 ≤ e
  most : e ≤ 971
  full : 2 ^ 52 ≤ m ∨ e = -1074

/-- A significand is doubled until it is full or the exponent is the least one. -/
theorem exists_magnitude {m : Nat} {e : Int} (hm : 0 < m) (hlt : m < 2 ^ 53) (hleast : -1074 ≤ e)
    (hmost : e ≤ 971) :
    ∃ (m' : Nat) (e' : Int), Magnitude m' e' ∧ (m' : ℚ) * 2 ^ e' = m * 2 ^ e := by
  obtain ⟨steps, hsteps⟩ : ∃ n : Nat, e = -1074 + n := ⟨(e + 1074).toNat, by omega⟩
  induction steps generalizing m e with
  | zero => exact ⟨m, e, ⟨hm, hlt, hleast, hmost, .inr (by omega)⟩, rfl⟩
  | succ n ih =>
    by_cases hfull : 2 ^ 52 ≤ m
    · exact ⟨m, e, ⟨hm, hlt, hleast, hmost, .inl hfull⟩, rfl⟩
    · have hmore := ih (m := 2 * m) (e := e - 1) (by omega) (by omega) (by omega) (by omega)
        (by omega)
      have hsame : ((2 * m : Nat) : ℚ) * 2 ^ (e - 1) = m * 2 ^ e := by
        rw [zpow_sub_one₀ two_ne_zero]
        push_cast
        ring
      rwa [hsame] at hmore

/-- How far the rounding interval of `m * 2 ^ e` reaches down, in units of the last place. -/
def gapBelow (m : Nat) (e : Int) : ℚ := if m = 2 ^ 52 ∧ -1074 < e then 1 / 4 else 1 / 2

theorem gapBelow_le (m : Nat) (e : Int) : gapBelow m e ≤ 1 / 2 := by
  rw [gapBelow]
  split <;> norm_num

namespace Magnitude

variable {m : Nat} {e : Int}

theorem value_pos (h : Magnitude m e) : (0 : ℚ) < m * 2 ^ e := by
  have hm : (0 : ℚ) < m := by exact_mod_cast h.pos
  positivity

theorem cast_lt (h : Magnitude m e) : (m : ℚ) + 1 ≤ 2 ^ 53 := by
  have hm : m + 1 ≤ 2 ^ 53 := h.lt
  exact_mod_cast hm

theorem value_lt (h : Magnitude m e) : (m : ℚ) * 2 ^ e < 2 ^ 1024 := by
  have hm : (m : ℚ) < 2 ^ 53 := by linarith [h.cast_lt]
  have he : (2 : ℚ) ^ e ≤ 2 ^ (971 : Int) := zpow_le_zpow_right₀ one_le_two h.most
  calc (m : ℚ) * 2 ^ e
    _ < 2 ^ 53 * 2 ^ e := by gcongr
    _ ≤ 2 ^ 53 * 2 ^ (971 : Int) := by gcongr
    _ = 2 ^ 1024 := by
      rw [show (971 : Int) = (971 : Nat) from rfl, zpow_natCast, ← pow_add]

theorem least_le (h : Magnitude m e) : (2 : ℚ) ^ (-1074 : Int) ≤ m * 2 ^ e := by
  have hm : (1 : ℚ) ≤ m := by exact_mod_cast h.pos
  calc (2 : ℚ) ^ (-1074 : Int)
    _ ≤ 2 ^ e := zpow_le_zpow_right₀ one_le_two h.least
    _ = 1 * 2 ^ e := (one_mul _).symm
    _ ≤ m * 2 ^ e := by gcongr

/-- What the interval of a magnitude holds is below the next binade. -/
theorem lt_of_around (h : Magnitude m e) {x : ℚ} (hx : Around (gapBelow m e) m (x / 2 ^ e)) :
    x < 2 ^ (e + 53) := by
  have hp : (0 : ℚ) < 2 ^ e := by positivity
  have hm := h.cast_lt
  have hle := hx.le.2
  rw [zpow_add₀ two_ne_zero, mul_comm, ← div_lt_iff₀ hp]
  have h53 : (2 : ℚ) ^ (53 : Int) = 2 ^ 53 := by norm_num
  linarith

theorem half_le_of_around (h : Magnitude m e) {x : ℚ}
    (hx : Around (gapBelow m e) m (x / 2 ^ e)) : (2 : ℚ) ^ (-1075 : Int) ≤ x := by
  have hp : (0 : ℚ) < 2 ^ e := by positivity
  have hm : (1 : ℚ) ≤ m := by exact_mod_cast h.pos
  have hge : (1 / 2 : ℚ) ≤ x / 2 ^ e := by linarith [hx.le.1, gapBelow_le m e]
  rw [le_div_iff₀ hp] at hge
  calc (2 : ℚ) ^ (-1075 : Int)
    _ = 1 / 2 * 2 ^ (-1074 : Int) := by
      rw [show (-1075 : Int) = -1 + -1074 from rfl, zpow_add₀ two_ne_zero, zpow_neg_one, one_div]
    _ ≤ 1 / 2 * 2 ^ e := by
      gcongr
      · norm_num
      · exact h.least
    _ ≤ x := hge

/-- What is below a binade and in the interval of a magnitude of it is just below its first number. -/
theorem first_of_around (h : Magnitude m e) {x : ℚ} (hx : Around (gapBelow m e) m (x / 2 ^ e))
    (hlt : x < 2 ^ (e + 52)) (he : -1074 < e) :
    m = 2 ^ 52 ∧ (2 : ℚ) ^ 52 - 1 / 4 ≤ x / 2 ^ e ∧ x / 2 ^ e < 2 ^ 52 := by
  have hp : (0 : ℚ) < 2 ^ e := by positivity
  have hm : 2 ^ 52 ≤ m := by
    rcases h.full with hm | he'
    · exact hm
    · omega
  have hu : x / 2 ^ e < 2 ^ 52 := by
    rw [div_lt_iff₀ hp, mul_comm]
    rw [zpow_add₀ two_ne_zero] at hlt
    exact_mod_cast hlt
  have hge := hx.le.1
  have hfirst : m = 2 ^ 52 := by
    by_contra hne
    have hm' : (2 : ℚ) ^ 52 + 1 ≤ m := by exact_mod_cast (show 2 ^ 52 + 1 ≤ m by omega)
    linarith [gapBelow_le m e]
  refine ⟨hfirst, ?_, hu⟩
  rw [gapBelow, if_pos ⟨hfirst, he⟩, hfirst] at hge
  exact_mod_cast hge

end Magnitude

namespace Double

/-- A number of 53 binary digits before an exponent from -1074 to 971, or one that is not finite. -/
def IsBinary64 : Double → Prop
  | finite q => ∃ (m : Nat) (e : Int), m < 2 ^ 53 ∧ -1074 ≤ e ∧ e ≤ 971 ∧ |q| = m * 2 ^ e
  | _ => True

theorem IsBinary64.magnitude {q : ℚ} (h : (finite q).IsBinary64) (hq : q ≠ 0) :
    ∃ (m : Nat) (e : Int), Magnitude m e ∧ |q| = m * 2 ^ e := by
  obtain ⟨m, e, hlt, hleast, hmost, hvalue⟩ := h
  have hm : 0 < m := by
    by_contra hzero
    rw [Nat.eq_zero_of_not_pos hzero, Nat.cast_zero, zero_mul, abs_eq_zero] at hvalue
    exact hq hvalue
  obtain ⟨m', e', hmagnitude, hsame⟩ := exists_magnitude hm hlt hleast hmost
  exact ⟨m', e', hmagnitude, hvalue.trans hsame.symm⟩

/-- A quotient in the rounding interval of a double is rounded to that double. -/
theorem ofMagnitude_eq (negative : Bool) {n d m : Nat} {e : Int} (h : Magnitude m e) (hn : 0 < n)
    (hd : 0 < d) (hx : Around (gapBelow m e) m (n / d / 2 ^ e)) :
    ofMagnitude negative n d = finite (if negative then -(m * 2 ^ e) else m * 2 ^ e) := by
  -- It is enough to find the place and the significand that the quotient is rounded to.
  have hround (m' : Nat) (e' : Int) (hplace : lastPlace n d = e') (hm' : 0 < m')
      (hsig : significand n d = m') (hvalue : (m' : ℚ) * 2 ^ e' = m * 2 ^ e) :
      ofMagnitude negative n d = finite (if negative then -(m * 2 ^ e) else m * 2 ^ e) := by
    have hscaled : scaled m' e' = m * 2 ^ e := by rw [scaled_eq, hvalue]
    have hfits : ¬ ((power 2 1024 : Nat) : ℚ) ≤ m * 2 ^ e := by
      rw [cast_power, Nat.cast_ofNat, not_le]
      exact h.value_lt
    simp only [ofMagnitude, hsig, hplace, hscaled]
    rw [if_neg (by omega), if_neg hfits]
  have hlt := h.lt_of_around hx
  by_cases hge : (2 : ℚ) ^ (e + 52) ≤ n / d ∨ e = -1074
  · have hplace := lastPlace_eq hn hd h.least hlt hge
    refine hround m e hplace h.pos (significand_eq hd hplace ?_) rfl
    have hlow := hx.le.1
    have hgap := gapBelow_le m e
    rcases hx with hx | hx
    · exact .inl ⟨by linarith, hx.2⟩
    · exact .inr ⟨hx.1, by linarith, hx.2.2⟩
  · -- The quotient is below the first number of a binade, and is measured in smaller units.
    rw [not_or, not_le] at hge
    have he : -1074 < e := lt_of_le_of_ne h.least (Ne.symm hge.2)
    obtain ⟨hm, hlow, hupper⟩ := h.first_of_around hx hge.1 he
    have hhalf : (2 : ℚ) ^ e = 2 ^ (e - 1) * 2 := by
      rw [← zpow_add_one₀ two_ne_zero, sub_add_cancel]
    have hp : (0 : ℚ) < 2 ^ (e - 1) := by positivity
    have hu : (n : ℚ) / d / 2 ^ (e - 1) = 2 * (n / d / 2 ^ e) := by
      rw [hhalf]
      field_simp
    have hplace : lastPlace n d = e - 1 := by
      apply lastPlace_eq hn hd (by omega)
      · rw [show e - 1 + 53 = e + 52 by omega]
        exact hge.1
      · left
        rw [zpow_add₀ two_ne_zero, mul_comm, ← le_div_iff₀ hp, hu]
        have h52 : (2 : ℚ) ^ (52 : Int) = 2 ^ 52 := by norm_num
        linarith
    refine hround (2 ^ 53) (e - 1) hplace (by norm_num) (significand_eq hd hplace ?_) ?_
    · rw [hu]
      refine .inr ⟨by norm_num, ?_, ?_⟩ <;> push_cast <;> linarith
    · rw [hm, hhalf]
      push_cast
      ring

theorem two_pow_le_ten_pow : 10 * 2 ^ 1024 ≤ 10 ^ 401 ∧ 2 ^ 1075 ≤ 10 ^ 401 := by decide +kernel

/-- A decimal in the rounding interval of a double is read as that double. -/
theorem ofDecimal_eq (negative : Bool) {digits m : Nat} {exponent e : Int} (h : Magnitude m e)
    (hx : Around (gapBelow m e) m (digits * 10 ^ exponent / 2 ^ e)) :
    ofDecimal negative digits exponent =
      finite (if negative then -(m * 2 ^ e) else m * 2 ^ e) := by
  have hpos : (0 : ℚ) < 10 ^ exponent := by positivity
  have hlow := h.half_le_of_around hx
  have hhigh : (digits * 10 ^ exponent : ℚ) < 2 ^ (1024 : Int) :=
    (h.lt_of_around hx).trans_le (zpow_le_zpow_right₀ one_le_two (by linarith [h.most]))
  have hdigits : 0 < digits := by
    by_contra hzero
    rw [Nat.eq_zero_of_not_pos hzero, Nat.cast_zero, zero_mul] at hlow
    exact absurd hlow (not_le.mpr (by positivity))
  obtain ⟨hlt, hle⟩ := natDigits_bounds digits
  have hplaces : (10 : ℚ) ^ (exponent + (natDigits digits).length) =
      10 ^ exponent * 10 ^ (natDigits digits).length := by
    rw [zpow_add₀ (by norm_num), zpow_natCast]
  have hbelow : (digits * 10 ^ exponent : ℚ) < 10 ^ (exponent + (natDigits digits).length) := by
    rw [hplaces, mul_comm]
    gcongr
    exact_mod_cast hlt
  have habove : (10 : ℚ) ^ (exponent + (natDigits digits).length) ≤
      10 * (digits * 10 ^ exponent) := by
    have hle' : (10 : ℚ) ^ (natDigits digits).length ≤ 10 * digits := by exact_mod_cast hle hdigits
    rw [hplaces]
    nlinarith
  have hnotSmall : ¬ exponent + (natDigits digits).length < -400 := by
    intro hsmall
    have htiny : (10 : ℚ) ^ (exponent + (natDigits digits).length) ≤ 10 ^ (-401 : Int) :=
      zpow_le_zpow_right₀ (by norm_num) (by omega)
    have hconst : (2 : ℚ) ^ 1075 ≤ 10 ^ 401 := by exact_mod_cast two_pow_le_ten_pow.2
    have hinverse : (10 : ℚ) ^ (-401 : Int) ≤ 2 ^ (-1075 : Int) := inv_anti₀ (by positivity) hconst
    linarith
  have hnotLarge : ¬ 400 < exponent + (natDigits digits).length := by
    intro hlarge
    have hhuge : (10 : ℚ) ^ (401 : Int) ≤ 10 ^ (exponent + (natDigits digits).length) :=
      zpow_le_zpow_right₀ (by norm_num) (by omega)
    have hconst : (10 : ℚ) * 2 ^ (1024 : Int) ≤ 10 ^ (401 : Int) := by
      exact_mod_cast two_pow_le_ten_pow.1
    have hten : 10 * (digits * 10 ^ exponent : ℚ) < 10 * 2 ^ (1024 : Int) :=
      mul_lt_mul_of_pos_left hhigh (by norm_num)
    exact absurd (hhuge.trans habove) (not_le.mpr (hten.trans_le hconst))
  have hquotient : ((digits * power 10 exponent.toNat : Nat) : ℚ) /
      ((power 10 (-exponent).toNat : Nat) : ℚ) = digits * 10 ^ exponent := by
    rw [Nat.cast_mul, cast_power, cast_power, Nat.cast_ofNat, pow_toNat (by norm_num) exponent]
    field_simp
  rw [ofDecimal, if_neg (by omega), if_neg hnotLarge]
  apply ofMagnitude_eq negative h
  · exact Nat.mul_pos hdigits (Nat.pow_pos (by norm_num))
  · exact Nat.pow_pos (by norm_num)
  · rw [hquotient]
    exact hx

end Double

end Courier
