import Courier.Proofs.Service.Duration
import Courier.Proofs.Service.Performing
import Courier.Proofs.Service.Recording

/-! The breaker along a session. It is open as soon as its failures reach the limit. Only a recorded
failure could end its rest, so once it is open every request is refused. -/

namespace Courier.Service

/-- An error that reports a failure of the transport. -/
def ReportsTransport : Except ClientError Response → Prop
  | .error (.timeout _) => True
  | .error (.failed f) => f.kind.Descends .httpError
  | _ => False

theorem Judged.reportsTransport_iff {url : String} {reader : Reader} {o : Outcome} {v : Verdict}
    (h : Judged reader o v) : ReportsTransport (Client.present url v.final) ↔ o.TransportFailure := by
  have hf (f : Failure) : ReportsTransport (Client.present url (.error (.failed f))) ↔
      f.kind.Descends .httpError := by
    by_cases ht : f.kind.isA .timeoutException = true
    · have hd := FailureClass.isA_iff_descends.mp ht
      have hh : f.kind.Descends .httpError := hd.trans (FailureClass.isA_iff_descends.mp (by decide))
      simp [Client.present, ht, ReportsTransport, hh]
    · simp [Client.present, ht, ReportsTransport]
  have hr := h.recordable_iff
  cases h with
  | accepted | refused =>
    rw [← hr]
    exact iff_of_false id Bool.false_ne_true
  | serverFault | unexplained | unread | again | given =>
    rw [← hr, Verdict.final, hf, ← FailureClass.isA_iff_descends]
    rfl

section Steps

variable {c : Client} {script : Script} {s : State}

theorem send_breaker (c : Client) (r : HttpRequest) (script : Script)
    (h : s.breaker.isOpen = false) :
    ∃ k, c.Takes script k ∧
      ((script (k - 1)).outcome.TransportFailure →
        (c.send r script s).state.breaker =
          (s.breaker.record (later? 0 (c.send r script s).state.clock)).2) ∧
      (¬ (script (k - 1)).outcome.TransportFailure →
        (c.send r script s).state.breaker = s.breaker) ∧
      ((∃ ms, Client.milliseconds ((c.send r script s).state.clock.sub s.clock) = .ok ms) →
        (ReportsTransport (c.send r script s).result ↔
          (script (k - 1)).outcome.TransportFailure)) := by
  obtain ⟨n, t, es, hk, ht, -, -, he⟩ := send_tried c r script h
  have hj := judged (script n)
  refine ⟨n + 1, hk, ?_⟩
  rw [Nat.add_sub_cancel, ← hj.recordable_iff, he, conclude_state]
  refine ⟨fun hr => ?_, fun hr => ?_, ?_⟩
  · simp [hr, ht.breaker_eq]
  · simp [hr, ht.breaker_eq]
  · rintro ⟨ms, hms⟩
    rw [(conclude_endsAs _ _ _ _ _).kept ms (by rw [conclude_state]; exact hms), hj.recordable_iff]
    exact hj.reportsTransport_iff

theorem send_failures (c : Client) (r : HttpRequest) (script : Script)
    (hg : s.breaker.gate ≠ .halfOpen) (hs : (later? 0 s.clock).isSome) :
    (s.breaker.stateName = "open" →
      (c.send r script s).state.breaker.failures = s.breaker.failures) ∧
    (s.breaker.stateName ≠ "open" → ∃ k, c.Takes script k ∧
      ((script (k - 1)).outcome.TransportFailure →
        (c.send r script s).state.breaker.failures = s.breaker.failures + 1) ∧
      (¬ (script (k - 1)).outcome.TransportFailure →
        (c.send r script s).state.breaker.failures = s.breaker.failures) ∧
      ((later? 0 (c.send r script s).state.clock).isSome →
        (ReportsTransport (c.send r script s).result ↔
          (script (k - 1)).outcome.TransportFailure))) := by
  simp only [ne_eq, Breaker.stateName_eq_open_iff, Bool.not_eq_true]
  refine ⟨fun ho => by rw [send_blocked ho], fun ho => ?_⟩
  obtain ⟨k, hk, hy, hn, hr⟩ := send_breaker c r script ho
  refine ⟨k, hk, fun ht => ?_, fun ht => by rw [hn ht], fun hc => hr (milliseconds_of_later? hs hc)⟩
  rw [hy ht, (Breaker.recorded hg _).failures_of_closed ho]

theorem performed_breaker {s' : State} {calls : List Call} (h : Performed c script s s' calls) :
    s'.breaker = s.breaker ∨ s'.breaker = (s.breaker.record (later? 0 s'.clock)).2 := by
  cases h with
  | sent r =>
    cases hb : s.breaker.isOpen with
    | true => exact .inl (by rw [send_blocked hb])
    | false =>
      obtain ⟨k, -, hy, hn, -⟩ := send_breaker c r script hb
      by_cases ht : (script (k - 1)).outcome.TransportFailure
      · exact .inr (hy ht)
      · exact .inl (hn ht)
  | recorded => exact .inr rfl
  | idle hb => exact .inl hb

/-- What a recorded failure keeps of a breaker, every action keeps. -/
theorem performed_keeps {P : Breaker → Prop} {s' : State} {calls : List Call}
    (h : Performed c script s s' calls) (hs : P s.breaker)
    (hr : P (s.breaker.record (later? 0 s'.clock)).2) : P s'.breaker := by
  rcases performed_breaker h with he | he <;> rw [he]
  · exact hs
  · exact hr

theorem balanced_performed {s' : State} {calls : List Call}
    (h : Performed c script s s' calls) (hb : s.breaker.Balanced)
    (hn : (later? 0 s'.clock).isSome) : s'.breaker.Balanced :=
  performed_keeps h hb (hb.recorded (Breaker.recorded hb.gate_ne _) hn)

theorem gate_ne_performed {s' : State} {calls : List Call}
    (h : Performed c script s s' calls) (hg : s.breaker.gate ≠ .halfOpen) :
    s'.breaker.gate ≠ .halfOpen :=
  performed_keeps (P := (·.gate ≠ .halfOpen)) h hg (Breaker.recorded hg _).gate_ne

theorem failMax_performed {s' : State} {calls : List Call}
    (h : Performed c script s s' calls) (hg : s.breaker.gate ≠ .halfOpen) :
    s'.breaker.failMax = s.breaker.failMax :=
  performed_keeps (P := (·.failMax = s.breaker.failMax)) h rfl (Breaker.recorded hg _).failMax_eq

theorem isOpen_performed {s' : State} {calls : List Call}
    (h : Performed c script s s' calls) (ho : s.breaker.isOpen = true) :
    s'.breaker.isOpen = true := by
  obtain ⟨t, ht⟩ := Breaker.isOpen_iff_gate.mp ho
  have hg : s.breaker.gate ≠ .halfOpen := by simp [ht]
  exact performed_keeps (P := (·.isOpen = true)) h ho ((Breaker.recorded hg _).isOpen ho)

end Steps

theorem balanced_start (c : Client) : c.start.breaker.Balanced where
  gate_ne := nofun
  isOpen_iff := by
    have hf : c.start.breaker.failures = 0 := rfl
    have ho : c.start.breaker.isOpen = false := rfl
    simp only [hf, ho, Bool.false_eq_true, false_iff]
    omega

/-- After every action at an instant of the calendar the breaker is closed or open, and it is open
exactly if its failures have reached the limit. A request adds at most one failure, and does so
exactly if it is let through and its last attempt fails in the transport. -/
theorem open_iff_failures (c : Client) (steps : List (Action × Script))
    (h : ∀ e ∈ c.performAll steps c.start, (later? 0 e.state.clock).isSome) :
    let s := c.finalState c.start steps
    (∀ e ∈ c.performAll steps c.start,
      (e.state.breaker.stateName = "closed" ∨ e.state.breaker.stateName = "open") ∧
      (e.state.breaker.stateName = "open" ↔
        max 1 c.config.breakerFailMax ≤ (e.state.breaker.failures : Int))) ∧
    ∀ (r : HttpRequest) (script : Script),
      (s.breaker.stateName = "open" →
        (c.send r script s).state.breaker.failures = s.breaker.failures) ∧
      (s.breaker.stateName ≠ "open" → ∃ k, c.Takes script k ∧
        ((script (k - 1)).outcome.TransportFailure →
          (c.send r script s).state.breaker.failures = s.breaker.failures + 1) ∧
        (¬ (script (k - 1)).outcome.TransportFailure →
          (c.send r script s).state.breaker.failures = s.breaker.failures) ∧
        ((later? 0 (c.send r script s).state.clock).isSome →
          (ReportsTransport (c.send r script s).result ↔
            (script (k - 1)).outcome.TransportFailure))) := by
  intro s
  constructor
  · have hi := performAll_invariant
      (P := fun s => s.breaker.Balanced ∧ s.breaker.failMax = c.config.breakerFailMax)
      (Q := fun s => (later? 0 s.clock).isSome)
      (fun a script s hs hn =>
        ⟨balanced_performed (performed c script s a) hs.1 hn,
          (failMax_performed (performed c script s a) hs.1.gate_ne).trans hs.2⟩)
      ⟨balanced_start c, rfl⟩ h
    intro e he
    obtain ⟨hb, hm⟩ := hi e he
    refine ⟨Breaker.stateName_of_gate_ne hb.gate_ne, ?_⟩
    rw [Breaker.stateName_eq_open_iff, hb.isOpen_iff, hm]
  · have hg : s.breaker.gate ≠ .halfOpen :=
      finalState_invariant (P := fun s => s.breaker.gate ≠ .halfOpen)
        (fun a script s => gate_ne_performed (performed c script s a))
        (balanced_start c).gate_ne steps
    have hs : (later? 0 s.clock).isSome := by
      rcases finalState_eq_or_mem (c := c) c.start steps with he | ⟨e, he, hes⟩
      · have hz : (later? 0 Double.zero).isSome := by decide +kernel
        rw [show s = c.start from he]
        exact hz
      · rw [show s = e.state from hes.symm]
        exact h e he
    exact fun r script => send_failures c r script hg hs

namespace Sample

def guarded (limit : Int) : Client :=
  { client with config := { maxRetries := 1, breakerFailMax := limit } }

def timeout : Script := always (.failure (.raised "ReadTimeout" "slow"))

/-- Two failures, a rest, and another failure. -/
def wearing : List (Action × Script) :=
  [(sendGet, timeout), (sendGet, timeout), (.advance (.finite 31), timeout),
    (.recordFailure (.raised "ReadTimeout" "slow"), timeout)]

end Sample

open Sample in
theorem open_iff_failures_of_wearing :
    (∀ e ∈ (guarded 2).performAll wearing (guarded 2).start, (later? 0 e.state.clock).isSome) ∧
    ((guarded 2).performAll wearing (guarded 2).start).map (·.state.breaker.failures) =
      [1, 2, 2, 3] ∧
    ∀ e ∈ (guarded 2).performAll wearing (guarded 2).start,
      e.state.breaker.stateName = "open" ↔ 2 ≤ (e.state.breaker.failures : Int) := by
  have h : ∀ e ∈ (guarded 2).performAll wearing (guarded 2).start,
      (later? 0 e.state.clock).isSome := by
    decide +kernel
  exact ⟨h, by decide +kernel, fun e he => ((open_iff_failures (guarded 2) wearing h).1 e he).2⟩

/-- A request is sent as long as the breaker has never been open. From then on every request is
refused, however much time has passed. -/
theorem send_reaches_iff_never_open (c : Client) (steps : List (Action × Script))
    (r : HttpRequest) (script : Script) :
    let s := c.finalState c.start steps
    ((c.send r script s).events.filterMap Event.call? ≠ [] ↔
      ∀ n, (c.finalState c.start (steps.take n)).breaker.isOpen = false) ∧
    ∀ n, (c.finalState c.start (steps.take n)).breaker.isOpen = true →
      (c.send r script s).result = .error (.unavailable c.target) ∧
      (c.send r script s).state = s := by
  intro s
  -- Once open after some of the actions, the breaker is open after all of them.
  have hopen (n : Nat) (h : (c.finalState c.start (steps.take n)).breaker.isOpen = true) :
      s.breaker.isOpen = true := by
    have he : s = c.finalState (c.finalState c.start (steps.take n)) (steps.drop n) := by
      rw [← finalState_append, List.take_append_drop]
    rw [he]
    exact finalState_invariant (P := fun s => s.breaker.isOpen = true)
      (fun a script s => isOpen_performed (performed c script s a)) h _
  refine ⟨⟨fun hc n => ?_, fun hn => ?_⟩, fun n h => ?_⟩
  · by_contra h
    rw [send_blocked (hopen n (by simpa using h))] at hc
    exact hc rfl
  · have ho : s.breaker.isOpen = false := by
      have hl := hn steps.length
      rwa [List.take_length] at hl
    obtain ⟨n, -, -, -, -, hcalls, -⟩ := send_tried c r script ho
    simp [hcalls, List.replicate_succ]
  · rw [send_blocked (hopen n h)]
    exact ⟨rfl, rfl⟩

open Sample in
/-- A breaker that opened at the start and rests for thirty seconds refuses a request after
thirty-one. -/
theorem send_refused_after_rest :
    ((guarded 1).finalState (guarded 1).start
      [(sendGet, timeout), (.advance (.finite 31), timeout)]).breaker =
        { failMax := 1, resetTimeout := .finite 30, gate := .opened 0, failures := 1 } ∧
    later? 0 ((guarded 1).finalState (guarded 1).start
      [(sendGet, timeout), (.advance (.finite 31), timeout)]).clock = some 31000000 ∧
    ((guarded 1).send (get "/c") (always (.response { status := 200 }))
      ((guarded 1).finalState (guarded 1).start
        [(sendGet, timeout), (.advance (.finite 31), timeout)])).result =
      .error (.unavailable "t") := by
  refine ⟨?_, ?_, ?_⟩ <;> decide +kernel

end Courier.Service
