import Courier.Proofs.Number.Rounding
import Courier.Proofs.Service.Verdict
import Courier.Service.Session
import Mathlib.Data.List.Basic

/-! The retry loop. `Tried` describes its runs one attempt at a time. The loop makes such a run and
no other, so what it does to a state and which events it leaves follows by induction on runs. -/

namespace Courier.Service

/-- A run of attempts from a state to a state. All but the last one are worth another attempt, and
`retries` of them come before the last. -/
inductive Tried (c : Client) (endpoint : String) (call : Call) (script : Script) :
    (before retries : Nat) → State → State → List Event → Prop
  | last (before : Nat) (s : State) :
    Tried c endpoint call script before 0 s (c.exchange call (script before) s).1
      (c.exchange call (script before) s).2
  | again {before retries : Nat} {s s' : State} {es : List Event} {f : Failure}
      (h : judge (script before) = .retry f)
      (later : Tried c endpoint call script (before + 1) retries
        (c.backOff call.method endpoint (before + 1) f
          (c.exchange call (script before) s).1).1 s' es) :
    Tried c endpoint call script before (retries + 1) s s'
      ((c.exchange call (script before) s).2 ++
        (c.backOff call.method endpoint (before + 1) f
          (c.exchange call (script before) s).1).2 ++ es)

section Loop

variable {c : Client} {endpoint : String} {call : Call} {script : Script}
variable {left before : Nat} {s : State}

theorem attempts_last
    (h : left = 0 ∨ ∀ f, judge (script before) ≠ .retry f) :
    c.attempts endpoint call script left before s =
      ⟨(judge (script before)).final, (c.exchange call (script before) s).1,
        (c.exchange call (script before) s).2⟩ := by
  unfold Client.attempts
  cases hj : judge (script before) with
  | accept r => simp only [hj, Verdict.final]
  | stop e => simp only [hj, Verdict.final]
  | retry f =>
    rcases h with rfl | h
    · simp only [hj, Verdict.final]
    · exact (h f hj).elim

theorem attempts_again {f : Failure} (h : judge (script before) = .retry f) :
    c.attempts endpoint call script (left + 1) before s =
      { c.attempts endpoint call script left (before + 1)
          (c.backOff call.method endpoint (before + 1) f
            (c.exchange call (script before) s).1).1 with
        events := (c.exchange call (script before) s).2 ++
          (c.backOff call.method endpoint (before + 1) f
            (c.exchange call (script before) s).1).2 ++
          (c.attempts endpoint call script left (before + 1)
            (c.backOff call.method endpoint (before + 1) f
              (c.exchange call (script before) s).1).1).events } := by
  conv_lhs => unfold Client.attempts
  simp only [h]

end Loop

section Steps

variable (c : Client) (call : Call) (reply : Reply) (s : State)

theorem connect_state : (c.connect s).1 = { s with connected := true } := by
  obtain ⟨clock, breaker, connected, correlation, metrics⟩ := s
  cases connected <;> rfl

@[simp] theorem exchange_breaker : (c.exchange call reply s).1.breaker = s.breaker := by
  simp [Client.exchange, connect_state]

@[simp] theorem exchange_metrics : (c.exchange call reply s).1.metrics = s.metrics := by
  simp [Client.exchange, connect_state]

theorem exchange_filterMap {α : Type} (f : Event → Option α) (hf : ∀ t, f (.created t) = none) :
    (c.exchange call reply s).2.filterMap f = [Event.called call].filterMap f := by
  simp only [Client.exchange, Client.connect]
  split <;> simp [hf]

theorem backOff_sleeps (method endpoint : String) (attempt : Nat) (f : Failure) :
    (c.backOff method endpoint attempt f s).2.filterMap Event.sleep? =
      [c.config.waitAfter attempt] := rfl

end Steps

section Runs

variable {c : Client} {endpoint : String} {call : Call} {script : Script}
variable {before retries : Nat} {s s' : State} {es : List Event}

/-- The loop makes a run, which ends where nothing is left or nothing is worth another attempt. -/
theorem attempts_tried (c : Client) (endpoint : String) (call : Call) (script : Script)
    (left before : Nat) (s : State) :
    ∃ n ≤ left,
      Tried c endpoint call script before n s
        (c.attempts endpoint call script left before s).state
        (c.attempts endpoint call script left before s).events ∧
      (c.attempts endpoint call script left before s).result =
        (judge (script (before + n))).final ∧
      (n < left → ∀ f, judge (script (before + n)) ≠ .retry f) := by
  induction left generalizing before s with
  | zero =>
    rw [attempts_last (.inl rfl)]
    exact ⟨0, Nat.le_refl _, .last before s, rfl, fun h => by omega⟩
  | succ left ih =>
    by_cases h : ∃ f, judge (script before) = .retry f
    · obtain ⟨f, hf⟩ := h
      rw [attempts_again hf]
      obtain ⟨n, hn, ht, hr, hl⟩ := ih (before + 1)
        (c.backOff call.method endpoint (before + 1) f (c.exchange call (script before) s).1).1
      have he : before + 1 + n = before + (n + 1) := by omega
      rw [he] at hr hl
      exact ⟨n + 1, by omega, .again hf ht, hr, fun h => hl (by omega)⟩
    · have hne : ∀ f, judge (script before) ≠ .retry f := fun f hf => h ⟨f, hf⟩
      rw [attempts_last (.inr hne)]
      exact ⟨0, by omega, .last before s, rfl, fun _ => hne⟩

namespace Tried

/-- A run that ends where the loop must is the run of the loop. -/
theorem attempts_eq (h : Tried c endpoint call script before retries s s' es) {left : Nat}
    (hle : retries ≤ left)
    (hlast : retries < left → ∀ f, judge (script (before + retries)) ≠ .retry f) :
    c.attempts endpoint call script left before s =
      ⟨(judge (script (before + retries))).final, s', es⟩ := by
  induction h generalizing left with
  | last before s =>
    refine attempts_last ?_
    by_cases h0 : left = 0
    · exact .inl h0
    · exact .inr (hlast (by omega))
  | @again before n s s' es f hj later ih =>
    obtain ⟨left, rfl⟩ : ∃ m, left = m + 1 := ⟨left - 1, by omega⟩
    have he : before + 1 + n = before + (n + 1) := by omega
    rw [he] at ih
    rw [attempts_again hj, ih (by omega) fun h => hlast (by omega)]

theorem congr {script' : Script} (h : Tried c endpoint call script before retries s s' es)
    (he : ∀ i ≤ retries, script' (before + i) = script (before + i)) :
    Tried c endpoint call script' before retries s s' es := by
  induction h with
  | last before s =>
    have h0 : script' before = script before := by simpa using he 0 (Nat.zero_le _)
    rw [← h0]
    exact .last before s
  | @again before n s s' es f hj later ih =>
    have h0 : script' before = script before := by simpa using he 0 (Nat.zero_le _)
    have hl := ih fun i hi => by
      simpa only [Nat.add_assoc, Nat.add_comm 1] using he (i + 1) (by omega)
    rw [← h0] at hj hl ⊢
    exact .again hj hl

theorem retryable (h : Tried c endpoint call script before retries s s' es) :
    ∀ i < retries, (script (before + i)).outcome.Retryable := by
  induction h with
  | last => intro i hi; omega
  | @again before n s s' es f hj later ih =>
    intro i hi
    cases i with
    | zero => exact judge_eq_retry_iff.mp ⟨f, hj⟩
    | succ i =>
      have hh := ih i (by omega)
      rwa [show before + 1 + i = before + (i + 1) by omega] at hh

theorem calls (h : Tried c endpoint call script before retries s s' es) :
    es.filterMap Event.call? = List.replicate (retries + 1) call := by
  induction h with
  | last before s => exact exchange_filterMap c call (script before) s _ fun _ => rfl
  | @again before n s s' es f hj later ih =>
    rw [List.filterMap_append, List.filterMap_append, exchange_filterMap _ _ _ _ _ fun _ => rfl, ih]
    rfl

theorem sleeps (h : Tried c endpoint call script before retries s s' es) :
    es.filterMap Event.sleep? =
      (List.range retries).map fun i => c.config.waitAfter (before + i + 1) := by
  induction h with
  | last before s => exact exchange_filterMap c call (script before) s _ fun _ => rfl
  | @again before n s s' es f hj later ih =>
    rw [List.filterMap_append, List.filterMap_append, exchange_filterMap _ _ _ _ _ fun _ => rfl,
      backOff_sleeps, ih, List.range_succ_eq_map]
    simp [Event.sleep?, Function.comp_def, Nat.add_assoc, Nat.add_comm 1]

theorem breaker_eq (h : Tried c endpoint call script before retries s s' es) :
    s'.breaker = s.breaker := by
  induction h with
  | last before s => exact exchange_breaker c call (script before) s
  | @again before n s s' es f hj later ih =>
    exact ih.trans (exchange_breaker c call (script before) s)

theorem isFinite_clock (h : Tried c endpoint call script before retries s s' es)
    (hs : s'.clock.isFinite = true) : s.clock.isFinite = true := by
  induction h with
  | last before s =>
    simp only [Client.exchange, connect_state] at hs
    exact Double.isFinite_of_add hs
  | @again before n s s' es f hj later ih =>
    have hwaited := ih hs
    simp only [Client.backOff, Client.exchange, connect_state] at hwaited
    exact Double.isFinite_of_add (Double.isFinite_of_add hwaited)

/-- A run measures nothing, and counts one retry for each attempt but the last. -/
theorem metrics_eq (h : Tried c endpoint call script before retries s s' es) :
    s'.metrics = { s.metrics with
      retries := s.metrics.retries ++ (List.range retries).map fun i =>
        ⟨c.label call.method endpoint, (script (before + i)).outcome.cause⟩ } := by
  induction h with
  | last before s => simp
  | @again before n s s' es f hj later ih =>
    have hf := (hj ▸ judged (script before)).name_eq_cause
    rw [ih, List.range_succ_eq_map]
    simp [Client.backOff, Metrics.retry, hf, Function.comp_def, Nat.add_assoc, Nat.add_comm 1]

end Tried

theorem attempts_congr {script' : Script} {left : Nat}
    (h : Tried c endpoint call script before retries s s' es) (hle : retries ≤ left)
    (hlast : retries < left → ∀ f, judge (script (before + retries)) ≠ .retry f)
    (he : ∀ i ≤ retries, script' (before + i) = script (before + i)) :
    c.attempts endpoint call script' left before s =
      c.attempts endpoint call script left before s := by
  have hr := he retries (Nat.le_refl _)
  rw [h.attempts_eq hle hlast, (h.congr he).attempts_eq hle (by rwa [hr]), hr]

end Runs

end Courier.Service
