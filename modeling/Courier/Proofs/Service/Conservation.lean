import Courier.Proofs.Service.Counters
import Courier.Proofs.Service.Performing

/-! Conservation of the metrics: each call ends a request or is retried, so the two counters of a
label make up all calls under it. -/

namespace Courier.Service

namespace Client

def labelOf (c : Client) (call : Call) : Label :=
  c.label call.method (String.ofList (call.url.toList.drop c.baseUrl.toList.length))

def sessionCalls (c : Client) (steps : List (Action × Script)) (s : State) : List Call :=
  (c.performAll steps s).flatMap fun e => e.events.filterMap Event.call?

theorem labelOf_callFor (c : Client) (correlation : Option String) (r : HttpRequest) :
    c.labelOf (c.callFor correlation r) = c.label r.method r.endpoint := by
  simp [labelOf, callFor, Call.ofRequest]

end Client

/-- The calls up to now make up the requests and the retries that are measured. -/
def Conserved (c : Client) (calls : List Call) (m : Metrics) : Prop :=
  ∀ l, calls.countP (c.labelOf · = l) =
    m.requests.countP (·.label = l) + m.retries.countP (·.label = l)

section Steps

variable {c : Client} {script : Script} {s : State}

/-- A request that is let through is measured once, by how its last attempt ended and with the time
that it took, and each attempt before that one is a retry. -/
theorem send_measured (c : Client) (r : HttpRequest) (script : Script)
    (h : s.breaker.isOpen = false) :
    let sent := c.send r script s
    ∃ n e status, c.Takes script (n + 1) ∧
      sent.events.filterMap Event.call? =
        List.replicate (n + 1) (c.callFor s.correlation r) ∧
      sent.state.metrics =
        { requests := s.metrics.requests ++
            [⟨c.label r.method r.endpoint, status, sent.state.clock.sub s.clock⟩]
          retries := s.metrics.retries ++ (List.range n).map fun i =>
            ⟨c.label r.method r.endpoint, (script i).outcome.cause⟩ } ∧
      (sent.state.clock.isFinite = true → s.clock.isFinite = true) ∧
      Settles (c.baseUrl ++ r.endpoint) (script n) e ∧ LabelledBy e status ∧
      EndsAs (sent.state.clock.sub s.clock) e sent.result := by
  intro sent
  obtain ⟨n, t, es, hk, ht, hcalls, -, he⟩ := send_tried c r script h
  refine ⟨n, _, _, hk, hcalls, ?_, ?_, (judged _).settles, labelledBy_statusLabel _ _, ?_⟩
  · simp only [sent, he, conclude_state, Metrics.measure, ht.metrics_eq, Nat.zero_add]
    rfl
  · simp only [sent, he, conclude_state]
    exact ht.isFinite_clock
  · simp only [sent, he]
    exact conclude_endsAs _ _ _ _ _

theorem send_counted (c : Client) (r : HttpRequest) (script : Script)
    (h : s.breaker.isOpen = false) :
    let sent := c.send r script s
    ∃ k e status, c.Takes script k ∧
      sent.state.metrics.requests = s.metrics.requests ++
        [⟨c.label r.method r.endpoint, status, sent.state.clock.sub s.clock⟩] ∧
      (∀ key, countOf key sent.state.metrics.requestCounts =
        countOf key s.metrics.requestCounts +
          if (c.label r.method r.endpoint, status) = key then 1 else 0) ∧
      (∀ key, countOf key sent.state.metrics.retryCounts =
        countOf key s.metrics.retryCounts + (List.range (k - 1)).countP fun i =>
          (c.label r.method r.endpoint, (script i).outcome.cause) = key) ∧
      Settles (c.baseUrl ++ r.endpoint) (script (k - 1)) e ∧ LabelledBy e status ∧
      EndsAs (sent.state.clock.sub s.clock) e sent.result := by
  intro sent
  obtain ⟨n, e, status, hk, -, hm, -, he⟩ := send_measured c r script h
  refine ⟨n + 1, e, status, hk, by rw [hm], fun key => ?_, fun key => ?_, he⟩
  · rw [Metrics.countOf_requestCounts, Metrics.countOf_requestCounts, hm]
    simp only [List.countP_append, List.countP_singleton, decide_eq_true_eq]
  · rw [Metrics.countOf_retryCounts, Metrics.countOf_retryCounts, hm]
    simp only [List.countP_append, List.countP_map, Nat.add_sub_cancel]
    rfl

theorem conserved_send {calls : List Call} (h : Conserved c calls s.metrics) (r : HttpRequest)
    (script : Script) :
    Conserved c (calls ++ (c.send r script s).events.filterMap Event.call?)
      (c.send r script s).state.metrics := by
  intro l
  cases hb : s.breaker.isOpen with
  | true =>
    rw [send_blocked hb]
    simpa [List.filterMap_cons, Event.call?] using h l
  | false =>
    obtain ⟨n, e, status, -, hc, hm, -, -⟩ := send_measured c r script hb
    rw [hc, hm]
    -- Of the `n + 1` calls, `n` are retries and one is the request.
    by_cases hl : c.label r.method r.endpoint = l
    · simp [h l, hl, Client.labelOf_callFor, List.countP_replicate, Function.comp_def]
      omega
    · simp [h l, hl, Client.labelOf_callFor, List.countP_replicate, Function.comp_def]

theorem conserved_performed {s' : State} {calls new : List Call}
    (h : Conserved c calls s.metrics) (hp : Performed c script s s' new) :
    Conserved c (calls ++ new) s'.metrics := by
  cases hp with
  | sent r => exact conserved_send h r script
  | recorded => simpa [Client.recordFailure] using h
  | idle hb hm => simpa [hm] using h

theorem conserved_session {calls : List Call} (h : Conserved c calls s.metrics)
    (steps : List (Action × Script)) :
    Conserved c (calls ++ c.sessionCalls steps s) (c.finalState s steps).metrics := by
  induction steps generalizing s calls with
  | nil => simpa [Client.sessionCalls, Client.performAll, Client.finalState] using h
  | cons step steps ih =>
    have hs := ih (conserved_performed h (performed c step.2 s step.1))
    simpa [Client.sessionCalls, Client.performAll, Client.finalState] using hs

/-- While the clock is finite, every duration is a number. -/
def Timed (s : State) : Prop :=
  s.clock.isFinite = true → ∀ x ∈ s.metrics.requests, x.seconds ≠ .nan

theorem timed_send (h : Timed s) (r : HttpRequest) (script : Script) :
    Timed (c.send r script s).state := by
  intro hf x hx
  cases hb : s.breaker.isOpen with
  | true =>
    rw [send_blocked hb] at hf hx
    exact h hf x hx
  | false =>
    obtain ⟨n, e, status, -, -, hm, hclock, -⟩ := send_measured c r script hb
    rw [hm] at hx
    -- A clock that is finite in the end has been so all along.
    rcases List.mem_append.mp hx with hx | hx
    · exact h (hclock hf) x hx
    · rw [List.mem_singleton.mp hx]
      exact Double.sub_ne_nan hf (hclock hf)

theorem timed_performed {s' : State} {new : List Call} (h : Timed s)
    (hp : Performed c script s s' new) : Timed s' := by
  cases hp with
  | sent r => exact timed_send h r script
  | recorded => simpa [Timed, Client.recordFailure] using h
  | idle hb hm hc => exact fun hf => hm ▸ h (hc hf)

theorem timed_session (c : Client) (steps : List (Action × Script)) :
    Timed (c.finalState c.start steps) :=
  finalState_invariant (fun a script s h => timed_performed h (performed c script s a))
    (fun _ => List.forall_mem_nil _) steps

end Steps

/-- At the end of every session the counters of a label make up the calls under it, its histogram is
in order, and it counts all requests unless the duration of one is no number, so all of them if the
clock is finite. A request that is let through is measured with the time that it took. It adds one
to the counter of the status that its last attempt ended with, and one for each retry to that of the
retry's cause. -/
theorem metrics_conserved (c : Client) (steps : List (Action × Script)) :
    let s := c.finalState c.start steps
    (∀ l, (c.sessionCalls steps c.start).countP (c.labelOf · = l) =
      s.metrics.requestsUnder l + s.metrics.retriesUnder l) ∧
    (∀ l, s.metrics.durationsUnder l = s.metrics.requestsUnder l ↔
      ∀ x ∈ s.metrics.requests, x.label = l → x.seconds ≠ .nan) ∧
    (s.clock.isFinite = true →
      ∀ l, s.metrics.durationsUnder l = s.metrics.requestsUnder l) ∧
    (∀ lh ∈ s.metrics.histograms, (lh.2.below.map (·.2)).Pairwise (· ≤ ·) ∧
      lh.2.below.getLast? = some (.infinite false, lh.2.count)) ∧
    ∀ (r : HttpRequest) (script : Script), s.breaker.isOpen = false →
      let sent := c.send r script s
      ∃ k e status, c.Takes script k ∧
        sent.state.metrics.requests = s.metrics.requests ++
          [⟨c.label r.method r.endpoint, status, sent.state.clock.sub s.clock⟩] ∧
        (∀ key, countOf key sent.state.metrics.requestCounts =
          countOf key s.metrics.requestCounts +
            if (c.label r.method r.endpoint, status) = key then 1 else 0) ∧
        (∀ key, countOf key sent.state.metrics.retryCounts =
          countOf key s.metrics.retryCounts + (List.range (k - 1)).countP fun i =>
            (c.label r.method r.endpoint, (script i).outcome.cause) = key) ∧
        Settles (c.baseUrl ++ r.endpoint) (script (k - 1)) e ∧ LabelledBy e status ∧
        EndsAs (sent.state.clock.sub s.clock) e sent.result := by
  intro s
  refine ⟨fun l => ?_, fun l => Metrics.durationsUnder_eq_iff _ l, fun hf l => ?_, ?_,
    fun r script h => send_counted c r script h⟩
  · have h0 : Conserved c [] c.start.metrics := fun _ => rfl
    have hc := conserved_session h0 steps l
    rw [Metrics.requestsUnder_eq, Metrics.retriesUnder_eq]
    simpa using hc
  · exact (Metrics.durationsUnder_eq_iff _ l).mpr fun x hx _ => timed_session c steps hf x hx
  · intro lh hlh
    obtain ⟨l, -, rfl⟩ := List.mem_map.mp hlh
    exact ⟨Histogram.below_pairwise _, Histogram.below_getLast? _⟩

namespace Sample

/-- After an eon, a request that takes another one, and a request that takes no time. -/
def overflowing : List (Action × Script) :=
  [(.advance eon, always (.response { status := 200 })),
    (sendGet, always (.response { status := 200 }) eon),
    (sendGet, always (.response { status := 200 }))]

end Sample

open Sample in
/-- Once the clock has overflowed, a request fails under the status of its good response, and the
histogram misses the next one, whose duration is no number. -/
theorem metrics_conserved_exceptions :
    (client.finalState client.start overflowing).metrics.requestsUnder
      (client.label "GET" "/c") = 2 ∧
    (client.finalState client.start overflowing).metrics.durationsUnder
      (client.label "GET" "/c") = 1 ∧
    countOf (client.label "GET" "/c", "200")
      (client.finalState client.start overflowing).metrics.requestCounts = 2 ∧
    (client.send (get "/c") (always (.response { status := 200 }) eon)
      (client.finalState client.start (overflowing.take 1))).result =
        .error (.failed (.foreign "OverflowError" "cannot convert float infinity to integer")) := by
  refine ⟨?_, ?_, ?_, ?_⟩ <;> decide +kernel

end Courier.Service
