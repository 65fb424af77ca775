import Courier.Number.Double
import Mathlib.Tactic.Linarith

/-! The order of doubles: that of the rationals that they stand for, between two infinities. -/

namespace Courier.Double

section Finite

variable {x y : Double} {a b : Rat}

theorem order?_of_toRat? (hx : x.toRat? = some a) (hy : y.toRat? = some b) :
    order? x y = some (if a < b then .lt else if a = b then .eq else .gt) := by
  cases x <;> cases y <;> cases hx <;> cases hy <;> rfl

theorem lt_of_toRat? (hx : x.toRat? = some a) (hy : y.toRat? = some b) :
    x.lt y = true ↔ a < b := by
  rw [lt, order?_of_toRat? hx hy]
  by_cases hab : a < b
  · simp [hab]
  · by_cases he : a = b <;> simp [hab, he]

theorem le_of_toRat? (hx : x.toRat? = some a) (hy : y.toRat? = some b) :
    x.le y = true ↔ a ≤ b := by
  rw [le, order?_of_toRat? hx hy]
  rcases lt_trichotomy a b with hab | hab | hab
  · simp [hab, hab.le]
  · simp [hab]
  · simp [hab.not_gt, hab.ne', hab]

theorem maximum_toRat? (hx : x.toRat? = some a) (hy : y.toRat? = some b) :
    (x.maximum y).toRat? = some (max a b) := by
  have h := lt_of_toRat? hx hy
  rw [maximum]
  split
  next hlt => rw [hy, max_eq_right (h.mp hlt).le]
  next hlt => rw [hx, max_eq_left (not_lt.mp fun hab => hlt (h.mpr hab))]

theorem minimum_toRat? (hx : x.toRat? = some a) (hy : y.toRat? = some b) :
    (x.minimum y).toRat? = some (min a b) := by
  have h := lt_of_toRat? hy hx
  rw [minimum]
  split
  next hlt => rw [hy, min_eq_right (h.mp hlt).le]
  next hlt => rw [hx, min_eq_left (not_lt.mp fun hab => hlt (h.mpr hab))]

end Finite

theorem le_iff {x y : Double} :
    x.le y = true ↔ x ≠ .nan ∧ y ≠ .nan ∧
      (x = .infinite true ∨ y = .infinite false ∨
        ∃ a b, x.toRat? = some a ∧ y.toRat? = some b ∧ a ≤ b) := by
  cases hx : x.toRat? with
  | none =>
    cases x with
    | infinite s =>
      cases y with
      | infinite t => cases s <;> cases t <;> simp [toRat?, le, order?]
      | _ => cases s <;> simp [toRat?, le, order?]
    | nan => simp [le, order?]
    | _ => simp [toRat?] at hx
  | some a =>
    cases hy : y.toRat? with
    | none =>
      cases y with
      | infinite t => cases t <;> cases x <;> simp_all [toRat?, le, order?]
      | nan => cases x <;> simp [le, order?]
      | _ => simp [toRat?] at hy
    | some b =>
      rw [le_of_toRat? hx hy]
      cases x <;> cases y <;> simp_all [toRat?]

theorem le_trans {x y z : Double} (h : x.le y = true) (h' : y.le z = true) : x.le z = true := by
  rw [le_iff] at h h' ⊢
  obtain ⟨hx, hy, h⟩ := h
  obtain ⟨-, hz, h'⟩ := h'
  refine ⟨hx, hz, ?_⟩
  rcases h with h | rfl | ⟨a, b, ha, hb, hab⟩
  · exact .inl h
  · rcases h' with h' | h' | ⟨_, _, h', _⟩
    · cases h'
    · exact .inr (.inl h')
    · cases h'
  · rcases h' with rfl | h' | ⟨b', d, hb', hd, hbd⟩
    · cases hb
    · exact .inr (.inl h')
    · rw [hb] at hb'
      cases hb'
      exact .inr (.inr ⟨a, d, ha, hd, hab.trans hbd⟩)

theorem le_infinite {x : Double} : x.le (.infinite false) = true ↔ x ≠ .nan := by
  rw [le_iff]
  simp

end Courier.Double
