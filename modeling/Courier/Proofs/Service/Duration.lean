import Courier.Proofs.Number.Rounding
import Courier.Service.Client

/-! The time that a request takes. Between two instants of the calendar it has whole milliseconds. -/

namespace Courier.Service

theorem microsOf?_bounded {x : Double} {d : Micros} (h : microsOf? x = some d) :
    ∃ q, x.toRat? = some q ∧ |q| ≤ |(d : ℚ)| + 2 ^ 22 := by
  cases hx : x.toRat? with
  | none => simp [microsOf?, hx] at h
  | some q =>
    refine ⟨q, rfl, ?_⟩
    have hq := abs_sub_truncate_le q
    have hp : |(q - truncate q) * 1000000| ≤ 1000000 := by
      rw [abs_mul, abs_of_nonneg (by norm_num : (0 : ℚ) ≤ 1000000)]
      linarith
    obtain ⟨p, hp', hle⟩ := Double.ofRat_bounded (hp.trans (by norm_num))
    have hr := abs_roundHalfEven_le p
    simp only [microsOf?, hx, hp', Option.map_some, Option.getD_some, Option.some.injEq] at h
    -- The whole seconds are not more than the microseconds, less those behind the point.
    have hw : |(truncate q : ℚ)| ≤ |(d : ℚ)| + |(roundHalfEven p : ℚ)| := by
      have he : (truncate q : ℚ) * 1000000 = d - roundHalfEven p := by
        rw [← h]
        push_cast
        ring
      calc |(truncate q : ℚ)|
        _ ≤ |(truncate q : ℚ) * 1000000| := by
          rw [abs_mul, abs_of_nonneg (by norm_num : (0 : ℚ) ≤ 1000000)]
          exact le_mul_of_one_le_right (abs_nonneg _) (by norm_num)
        _ ≤ |(d : ℚ)| + |(roundHalfEven p : ℚ)| := by
          rw [he]
          exact abs_sub _ _
    have ht : |q| ≤ |q - truncate q| + |(truncate q : ℚ)| := by
      simpa using abs_add_le (q - truncate q) (truncate q : ℚ)
    linarith

/-- An instant of the calendar is a finite number of seconds. -/
theorem later?_bounded {x : Double} (h : (later? 0 x).isSome) :
    ∃ q, x.toRat? = some q ∧ |q| ≤ 2 ^ 68 := by
  cases hd : microsOf? x with
  | none => simp [later?, hd] at h
  | some d =>
    obtain ⟨q, hq, hle⟩ := microsOf?_bounded hd
    refine ⟨q, hq, hle.trans ?_⟩
    simp only [later?, hd] at h
    split at h
    next hb =>
      have hl : |d| < longestSpan := abs_lt.mpr ⟨hb.1, hb.2.1⟩
      have hl' : |(d : ℚ)| < longestSpan := by exact_mod_cast hl
      have hs : (longestSpan : ℚ) + 2 ^ 22 ≤ 2 ^ 68 := by norm_num [longestSpan]
      linarith
    next => cases h

theorem milliseconds_of_toRat? {x : Double} {q : ℚ} (hx : x.toRat? = some q)
    (h : |q| ≤ 2 ^ 100) : ∃ ms, Client.milliseconds x = .ok ms := by
  have hq : |q * 1000| ≤ 2 ^ 200 := by
    rw [abs_mul, abs_of_nonneg (by norm_num : (0 : ℚ) ≤ 1000)]
    linarith
  obtain ⟨v, hv, -⟩ := Double.mul_bounded (y := .finite 1000) hx rfl hq
  unfold Client.milliseconds
  cases hm : x.mul (.finite 1000) with
  | nan | infinite => simp [hm, Double.toRat?] at hv
  | negativeZero => exact ⟨0, rfl⟩
  | finite q => exact ⟨_, rfl⟩

theorem milliseconds_of_later? {x y : Double} (hx : (later? 0 x).isSome)
    (hy : (later? 0 y).isSome) : ∃ ms, Client.milliseconds (y.sub x) = .ok ms := by
  obtain ⟨a, ha, hal⟩ := later?_bounded hx
  obtain ⟨b, hb, hbl⟩ := later?_bounded hy
  have hab : |b - a| ≤ 2 ^ 69 := by
    have := abs_sub b a
    linarith
  obtain ⟨v, hv, hle⟩ := Double.sub_bounded hb ha (hab.trans (by norm_num))
  refine milliseconds_of_toRat? hv ?_
  linarith

end Courier.Service
