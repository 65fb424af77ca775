import Courier.Service.Breaker

/-! Recorded failures. A breaker opens as soon as it has counted enough of them; a rest ends only to
be followed by another one, so that nobody ever finds it half open. -/

namespace Courier.Service

namespace Breaker

/-- What a recorded failure makes of a breaker that is closed or open. -/
inductive Recorded (b : Breaker) (now : Option Micros) : Breaker → Prop
  | kept (h : b.isOpen = true) : Recorded b now b
  | counted (h : b.gate = .closed) (hl : (b.count.failures : Int) < b.failMax) :
    Recorded b now b.count
  | tripped {t : Micros} (ht : now = some t)
      (h : b.gate = .closed → b.failMax ≤ (b.count.failures : Int)) :
    Recorded b now { b.count with gate := .opened t }
  | undated (h : b.gate = .closed) (hn : now = none) : Recorded b now b.count

/-- The breaker is open exactly if it has counted enough failures, which is at least one, and it is
not half open. -/
structure Balanced (b : Breaker) : Prop where
  gate_ne : b.gate ≠ .halfOpen
  isOpen_iff : b.isOpen = true ↔ max 1 b.failMax ≤ (b.failures : Int)

section Record

variable {b b' : Breaker} {now : Option Micros}

theorem isOpen_iff_gate : b.isOpen = true ↔ ∃ t, b.gate = .opened t := by
  cases h : b.gate <;> simp [isOpen, h]

theorem stateName_eq_open_iff : b.stateName = "open" ↔ b.isOpen = true := by
  cases h : b.gate <;> simp [isOpen, stateName, h]

theorem gate_eq_closed (hg : b.gate ≠ .halfOpen) (ho : b.isOpen = false) : b.gate = .closed := by
  cases h : b.gate <;> simp_all [isOpen]

theorem stateName_of_gate_ne (h : b.gate ≠ .halfOpen) :
    b.stateName = "closed" ∨ b.stateName = "open" := by
  cases hg : b.gate <;> simp_all [stateName]

theorem recorded (h : b.gate ≠ .halfOpen) (now : Option Micros) :
    Recorded b now (b.record now).2 := by
  cases hg : b.gate with
  | halfOpen => exact (h hg).elim
  | closed =>
    simp only [record, letIn, hg, fail]
    split
    next hl =>
      cases now with
      | none => exact .undated hg rfl
      | some t => exact .tripped rfl fun _ => hl
    next hl => exact .counted hg (Int.not_le.mp hl)
  | opened since =>
    have ho : b.isOpen = true := isOpen_iff_gate.mpr ⟨since, hg⟩
    simp only [record, letIn, hg]
    split
    next hi =>
      split at hi
      next t rested _ _ =>
        split at hi <;> cases hi
        -- The rest is over, and the failure that is let through opens the breaker anew.
        exact .tripped rfl fun hc => by simp [hg] at hc
      next => cases hi
    next => exact .kept ho

theorem Recorded.gate_ne (h : Recorded b now b') : b'.gate ≠ .halfOpen := by
  cases h with
  | kept h =>
    obtain ⟨t, ht⟩ := isOpen_iff_gate.mp h
    simp [ht]
  | counted h | undated h => simp [count, h]
  | tripped => simp

theorem Recorded.failMax_eq (h : Recorded b now b') : b'.failMax = b.failMax := by
  cases h <;> rfl

theorem Recorded.isOpen (h : Recorded b now b') (ho : b.isOpen = true) : b'.isOpen = true := by
  cases h with
  | kept => exact ho
  | counted h | undated h => simp [Breaker.isOpen, h] at ho
  | tripped => rfl

theorem Recorded.failures_of_closed (h : Recorded b now b') (ho : b.isOpen = false) :
    b'.failures = b.failures + 1 := by
  cases h with
  | kept h => simp [h] at ho
  | counted | tripped | undated => rfl

theorem Recorded.failMax_le (h : Recorded b now b') (hc : b.gate = .closed)
    (ho : b'.isOpen = true) : b.failMax ≤ (b.failures + 1 : Nat) := by
  cases h with
  | kept h => simp [Breaker.isOpen, hc] at h
  | counted | undated => simp [Breaker.isOpen, count, hc] at ho
  | tripped _ hl => exact hl hc

theorem Balanced.recorded (hb : b.Balanced) (h : Recorded b now b') (hn : now.isSome) :
    b'.Balanced := by
  refine ⟨h.gate_ne, ?_⟩
  cases h with
  | kept => exact hb.isOpen_iff
  | counted h hl =>
    have ho : b.count.isOpen = false := by simp [Breaker.isOpen, count, h]
    have hf : b.count.failMax = b.failMax := rfl
    simp only [ho, hf, Bool.false_eq_true, false_iff]
    omega
  | tripped ht hl =>
    refine iff_of_true rfl ?_
    have hf : b.count.failures = b.failures + 1 := rfl
    show max 1 b.failMax ≤ (b.count.failures : Int)
    cases ho : b.isOpen with
    | true =>
      have := hb.isOpen_iff.mp ho
      omega
    | false =>
      have := hl (gate_eq_closed hb.gate_ne ho)
      omega
  | undated _ hn' => simp [hn'] at hn

end Record

end Breaker

end Courier.Service
