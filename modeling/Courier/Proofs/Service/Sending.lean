import Courier.Proofs.Service.Attempts
import Courier.Proofs.Service.Duration
import Mathlib.Order.Bounds.Basic

/-! Sending a request while the breaker lets it through: how many attempts it takes, and how it
ends. -/

namespace Courier.Service

/-- The number of attempts that a request takes: up to the first outcome that is not worth another
one, and not more than are allowed. At least one is. -/
def Client.Takes (c : Client) (script : Script) (k : Nat) : Prop :=
  IsLeast {n : Nat | 0 < n ∧
    (max 1 c.config.maxRetries ≤ n ∨ ¬ (script (n - 1)).outcome.Retryable)} k

/-- A request that took so many seconds ends as its last attempt did, if they are whole milliseconds
for the log; if they are none, it fails for that. -/
structure EndsAs (seconds : Double) (e result : Except ClientError Response) : Prop where
  kept : ∀ ms, Client.milliseconds seconds = .ok ms → result = e
  lost : ∀ f, Client.milliseconds seconds = .error f →
    (f.kind = .foreign "OverflowError" ∨ f.kind = .foreign "ValueError") ∧
      result = .error (.failed f)

section Conclude

variable (c : Client) (r : HttpRequest) (url : String) (start : Double)
variable (tried : Ended ClientError Response)

theorem recordFailure_filterMap {α : Type} (f : Event → Option α)
    (hf : ∀ l, f (.logged l) = none) (s : State) : (c.recordFailure s).2.filterMap f = [] := by
  simp only [Client.recordFailure]
  split <;> simp [hf]

theorem complete_filterMap {α : Type} (f : Event → Option α) (hf : ∀ l, f (.logged l) = none)
    (method endpoint status : String) (s : State) :
    (c.complete method endpoint status start s).events.filterMap f = [] := by
  simp only [Client.complete]
  split <;> simp [hf]

theorem conclude_filterMap {α : Type} (f : Event → Option α) (hf : ∀ l, f (.logged l) = none) :
    (c.conclude r url start tried).events.filterMap f = tried.events.filterMap f := by
  simp only [Client.conclude, List.filterMap_append, complete_filterMap c start f hf,
    List.append_nil]
  split <;> simp [recordFailure_filterMap c f hf]

theorem complete_state (method endpoint status : String) (s : State) :
    (c.complete method endpoint status start s).state =
      { s with
        metrics := s.metrics.measure ⟨c.label method endpoint, status, s.clock.sub start⟩ } := by
  simp only [Client.complete]
  split <;> rfl

theorem conclude_state :
    (c.conclude r url start tried).state =
      { tried.state with
        breaker :=
          if Client.recordable tried.result then
            (tried.state.breaker.record (later? 0 tried.state.clock)).2
          else tried.state.breaker
        metrics := tried.state.metrics.measure
          ⟨c.label r.method r.endpoint, Client.statusLabel tried.result,
            tried.state.clock.sub start⟩ } := by
  cases h : Client.recordable tried.result <;>
    simp [Client.conclude, h, complete_state, Client.recordFailure]

theorem milliseconds_error {x : Double} {f : Failure} (h : Client.milliseconds x = .error f) :
    f.kind = .foreign "OverflowError" ∨ f.kind = .foreign "ValueError" := by
  unfold Client.milliseconds at h
  split at h <;> cases h
  · exact .inr rfl
  · exact .inl rfl

/-- A request ends as its attempts did, unless the time that it took cannot be logged. -/
theorem conclude_endsAs :
    EndsAs ((c.conclude r url start tried).state.clock.sub start) (Client.present url tried.result)
      (c.conclude r url start tried).result := by
  rw [conclude_state]
  constructor
  · intro ms h
    cases hr : Client.recordable tried.result <;>
      simp_all [Client.conclude, Client.complete, Client.recordFailure]
  · intro f h
    refine ⟨milliseconds_error h, ?_⟩
    cases hr : Client.recordable tried.result <;>
      simp_all [Client.conclude, Client.complete, Client.recordFailure]

end Conclude

section Send

variable {c : Client} {r : HttpRequest} {script : Script} {s : State}

theorem send_blocked (h : s.breaker.isOpen = true) :
    c.send r script s =
      ⟨.error (.unavailable c.target), s, [.logged (c.blockedEntry r.method r.endpoint)]⟩ := by
  simp [Client.send, h]

theorem send_clear (h : s.breaker.isOpen = false) :
    c.send r script s = c.conclude r (c.baseUrl ++ r.endpoint) s.clock
      (c.attempts r.endpoint (c.callFor s.correlation r) script (c.config.attempts - 1) 0 s) := by
  simp [Client.send, h]

theorem Tried.takes {call : Call} {endpoint : String} {n : Nat} {s' : State} {es : List Event}
    (h : Tried c endpoint call script 0 n s s' es) (hle : n ≤ c.config.attempts - 1)
    (hlast : n < c.config.attempts - 1 → ∀ f, judge (script n) ≠ .retry f) :
    c.Takes script (n + 1) := by
  have ha : c.config.attempts = max 1 c.config.maxRetries.toNat := rfl
  constructor
  · refine ⟨Nat.succ_pos n, ?_⟩
    by_cases hn : n < c.config.attempts - 1
    · right
      rw [Nat.add_sub_cancel, ← judge_eq_retry_iff]
      exact fun ⟨f, hf⟩ => hlast hn f hf
    · left
      omega
  · rintro m ⟨hm, hk⟩
    by_contra hlt
    rcases hk with hk | hk
    · omega
    · have hr := h.retryable (m - 1) (by omega)
      rw [Nat.zero_add] at hr
      exact hk hr

/-- What a request does that is let through: a run of attempts, and then its conclusion. -/
theorem send_tried (c : Client) (r : HttpRequest) (script : Script)
    (h : s.breaker.isOpen = false) :
    ∃ n t es, c.Takes script (n + 1) ∧
      Tried c r.endpoint (c.callFor s.correlation r) script 0 n s t es ∧
      (c.send r script s).events.filterMap Event.call? =
        List.replicate (n + 1) (c.callFor s.correlation r) ∧
      (∀ script' : Script, (∀ i < n + 1, script' i = script i) →
        c.send r script' s = c.send r script s) ∧
      c.send r script s = c.conclude r (c.baseUrl ++ r.endpoint) s.clock
        ⟨(judge (script n)).final, t, es⟩ := by
  obtain ⟨n, hn, ht, hr, hl⟩ := attempts_tried c r.endpoint (c.callFor s.correlation r) script
    (c.config.attempts - 1) 0 s
  rw [Nat.zero_add] at hr
  refine ⟨n, _, _, ht.takes hn ?_, ht, ?_, fun script' he => ?_, ?_⟩
  · rwa [Nat.zero_add] at hl
  · rw [send_clear h, conclude_filterMap _ _ _ _ _ _ fun _ => rfl]
    exact ht.calls
  · rw [send_clear h, send_clear h, attempts_congr ht hn hl fun i hi => ?_]
    rw [Nat.zero_add]
    exact he i (by omega)
  · rw [send_clear h]
    exact congrArg _ (by rw [← hr])

end Send

/-- A request that is let through is tried until an outcome is not worth another attempt, or as
often as is allowed. All attempts make the same call, with a wait between each two. The last reply
alone decides how the request ends, as long as the time that it took has whole milliseconds; between
two instants of the calendar it has. -/
theorem send_retries (c : Client) (r : HttpRequest) (script : Script) (s : State)
    (h : s.breaker.isOpen = false) :
    let sent := c.send r script s
    ∃ k, c.Takes script k ∧
      sent.events.filterMap Event.call? = List.replicate k (c.callFor s.correlation r) ∧
      (sent.events.filterMap Event.sleep?).length = k - 1 ∧
      (∀ script' : Script, (∀ i < k, script' i = script i) → c.send r script' s = sent) ∧
      ∃ e, Settles (c.baseUrl ++ r.endpoint) (script (k - 1)) e ∧
        EndsAs (sent.state.clock.sub s.clock) e sent.result ∧
        ((later? 0 s.clock).isSome → (later? 0 sent.state.clock).isSome → sent.result = e) := by
  intro sent
  obtain ⟨n, t, es, hk, ht, hcalls, hc, he⟩ := send_tried c r script h
  have hends : EndsAs (sent.state.clock.sub s.clock)
      (Client.present (c.baseUrl ++ r.endpoint) (judge (script n)).final) sent.result := by
    simp only [sent, he]
    exact conclude_endsAs _ _ _ _ _
  refine ⟨n + 1, hk, hcalls, ?_, hc, _, (judged _).settles, hends, fun hs ht => ?_⟩
  · simp only [sent, he]
    rw [conclude_filterMap _ _ _ _ _ _ fun _ => rfl, ht.sleeps]
    simp
  · obtain ⟨ms, hms⟩ := milliseconds_of_later? hs ht
    exact hends.kept ms hms

namespace Sample

def client : Client := { baseUrl := "http://h", target := "t" }

def get (endpoint : String) : HttpRequest := { method := "GET", endpoint, more := () }

def sendGet : Action := .send (.obj [("method", .str "GET"), ("endpoint", .str "/c")])

/-- So many seconds that twice as many are no finite number. -/
def eon : Double := .finite (3 * power 2 1022 : Nat)

def always (outcome : Outcome) (delay : Double := .zero) : Script := fun _ => { delay, outcome }

def timeoutThen (outcome : Outcome) : Script
  | 0 => { outcome := .failure (.raised "ReadTimeout" "slow") }
  | _ + 1 => { outcome }

/-- A refusal whose explanation is legible as JSON, but not as the text that it claims to be. -/
def illegible : Response where
  status := 404
  headers := [("Content-Type", "application/json; charset=utf-16")]
  body := utf8Encode "\x7b\"detail\": \"x\"\x7d".toList

end Sample

open Sample in
theorem send_retries_after_timeout :
    client.start.breaker.isOpen = false ∧
    ∃ k, client.Takes (timeoutThen (.response { status := 200 })) k ∧
      ((client.send (get "/c") (timeoutThen (.response { status := 200 }))
        client.start).events.filterMap Event.call?).length = k ∧
      (client.send (get "/c") (timeoutThen (.response { status := 200 })) client.start).result =
        .ok { status := 200 } := by
  obtain ⟨k, hk, hc, -, -, e, he, hr, -⟩ := send_retries client (get "/c")
    (timeoutThen (.response { status := 200 })) client.start rfl
  have h2 : k = 2 := hk.unique ⟨⟨by decide, .inr fun h => absurd h.1 (by decide)⟩, fun n hn => by
    by_contra hlt
    have h1 : n = 1 := by have := hn.1; omega
    subst h1
    rcases hn.2 with hn | hn
    · exact absurd hn (by decide)
    · exact hn (.inl (FailureClass.isA_iff_descends.mp (by decide)))⟩
  subst h2
  refine ⟨rfl, 2, hk, by rw [hc]; rfl, ?_⟩
  rw [hr.kept 1000 (by decide +kernel)]
  exact he.1 (by decide)

open Sample in
/-- A refusal is lost with a text that cannot be read, though its detail can; and a time beyond all
milliseconds hides a good response. -/
theorem send_retries_exceptions :
    (Reader.standard).errorDetail illegible = .ok "x" ∧
    (client.send (get "/c") (always (.response illegible)) client.start).result =
      .error (.failed (.foreign "UnicodeError" "UTF-16 stream does not start with BOM")) ∧
    (client.send (get "/c") (always (.response { status := 200 }) eon) client.start).result =
      .error (.failed (.foreign "OverflowError" "cannot convert float infinity to integer")) := by
  refine ⟨?_, ?_, ?_⟩ <;> decide +kernel

end Courier.Service
