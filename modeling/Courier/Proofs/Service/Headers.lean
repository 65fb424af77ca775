import Courier.Proofs.Entries
import Courier.Proofs.Service.Performing
import Courier.Proofs.Service.Storage

/-! The headers of calls, over whole sessions. Only the correlation id passes from one action to the
next, and of that only the one set last. -/

namespace Courier.Service

/-- The request that an action is to send. -/
inductive Action.Sends : Action → HttpRequest → Prop
  | send {v : Json} {r : HttpRequest} (h : Model.check v = .ok r) : Sends (.send v) r
  | metadata (p : Place) (mode : Metadata.Mode) (entries : List (String × String)) :
    Sends (.metadata p mode (.ofTexts entries)) (p.request mode entries)
  | list (queue : String) (page : Page) :
    Sends (.list queue page)
      { method := "GET", endpoint := Client.messagesEndpoint queue, params := some page.params,
        more := () }
  | post (queue : String) (messages : Json) :
    Sends (.post queue messages)
      { method := "POST", endpoint := Client.messagesEndpoint queue, payload := messages, more := () }

/-- The correlation id that an action sets or unsets, if it does. -/
def Action.correlation? : Action → Option (Option String)
  | .correlate id => some id
  | _ => none

/-- The correlation id in force after actions: the one set last. -/
def correlationAfter (initial : Option String) (steps : List (Action × Script)) : Option String :=
  (steps.filterMap fun step => step.1.correlation?).getLastD initial

section Correlation

variable {c : Client} {endpoint : String} {call : Call} {script : Script}
variable {before retries : Nat} {s s' : State} {es : List Event}

theorem exchange_correlation (c : Client) (call : Call) (reply : Reply) (s : State) :
    (c.exchange call reply s).1.correlation = s.correlation := by
  simp [Client.exchange, connect_state]

theorem Tried.correlation_eq (h : Tried c endpoint call script before retries s s' es) :
    s'.correlation = s.correlation := by
  induction h with
  | last before s => exact exchange_correlation c call (script before) s
  | @again before n s s' es f hj later ih =>
    exact ih.trans (exchange_correlation c call (script before) s)

theorem send_correlation (c : Client) (r : HttpRequest) (script : Script) (s : State) :
    (c.send r script s).state.correlation = s.correlation := by
  by_cases h : s.breaker.isOpen = true
  · rw [send_blocked h]
  · rw [Bool.not_eq_true] at h
    obtain ⟨n, t, es, -, ht, -, -, he⟩ := send_tried c r script h
    rw [he, conclude_state]
    exact ht.correlation_eq

/-- No action but the one that sets the correlation id changes it. -/
theorem perform_correlation (c : Client) (a : Action) (script : Script) (s : State) :
    (c.perform a script s).state.correlation = a.correlation?.getD s.correlation := by
  cases a with
  | send v =>
    simp only [Client.perform]
    split
    · exact send_correlation c _ script s
    · rfl
  | metadata p mode m =>
    rw [perform_metadata]
    show (c.postMetadata p mode m script s).state.correlation = s.correlation
    unfold Client.postMetadata
    split
    · rfl
    · exact send_correlation c _ script s
  | list q page =>
    show (c.listMessages q page script s).state.correlation = s.correlation
    rw [Client.listMessages, sendThen_state]
    exact send_correlation c _ script s
  | post q ms =>
    show (c.postMessages q ms script s).state.correlation = s.correlation
    rw [Client.postMessages, sendThen_state]
    exact send_correlation c _ script s
  | getClient =>
    show (c.connect s).1.correlation = s.correlation
    rw [connect_state]
  | close | exit =>
    show (c.close s).1.correlation = s.correlation
    unfold Client.close
    split <;> rfl
  | recordFailure f => rfl
  | enter | advance | correlate => rfl

theorem finalState_correlation (c : Client) (s : State) (steps : List (Action × Script)) :
    (c.finalState s steps).correlation = correlationAfter s.correlation steps := by
  induction steps generalizing s with
  | nil => rfl
  | cons step steps ih =>
    obtain ⟨a, script⟩ := step
    have hstep := perform_correlation c a script s
    have hrest := ih (c.perform a script s).state
    show (c.finalState (c.perform a script s).state steps).correlation = _
    rw [hrest, hstep, correlationAfter, correlationAfter]
    -- What the first action sets is in force until a later one sets another.
    cases ha : a.correlation? with
    | none => rw [List.filterMap_cons_none (by exact ha), Option.getD_none]
    | some id => rw [List.filterMap_cons_some (by exact ha), List.getLastD_cons, Option.getD_some]

end Correlation

section Calls

variable {c : Client} {script : Script} {s : State} {a : Action} {r : HttpRequest}

/-- A request makes the same call as often as it is tried, and none while the breaker is open. -/
theorem send_calls (c : Client) (r : HttpRequest) (script : Script) (s : State) :
    ∃ k, (c.send r script s).events.filterMap Event.call? =
        List.replicate k (c.callFor s.correlation r) ∧
      (k = 0 ↔ s.breaker.isOpen = true) := by
  by_cases h : s.breaker.isOpen = true
  · refine ⟨0, ?_, by simp [h]⟩
    rw [send_blocked h]
    rfl
  · rw [Bool.not_eq_true] at h
    obtain ⟨n, -, -, -, -, hcalls, -⟩ := send_tried c r script h
    exact ⟨n + 1, hcalls, by simp [h]⟩

theorem perform_calls (h : a.Sends r) :
    (c.perform a script s).events.filterMap Event.call? =
      (c.send r script s).events.filterMap Event.call? := by
  cases h with
  | send h =>
    simp only [Client.perform, h]
    rfl
  | metadata p mode entries =>
    rw [perform_metadata, postMetadata_texts]
    rfl
  | list queue page => exact sendThen_calls c script s _ _
  | post queue messages => exact sendThen_calls c script s _ _

theorem perform_calls_of_none (h : ∀ r, ¬ a.Sends r) :
    (c.perform a script s).events.filterMap Event.call? = [] := by
  cases a with
  | send v =>
    simp only [Client.perform]
    split
    · next r hr => exact (h r (.send hr)).elim
    · rfl
  | metadata p mode m =>
    have hm : ∀ entries, m ≠ .ofTexts entries := by
      rintro entries rfl
      exact h _ (.metadata p mode entries)
    obtain ⟨f, hf⟩ := postMetadata_refused c p mode script s hm
    rw [perform_metadata, hf]
    rfl
  | list queue page => exact (h _ (.list queue page)).elim
  | post queue messages => exact (h _ (.post queue messages)).elim
  | getClient =>
    show (c.connect s).2.filterMap Event.call? = []
    unfold Client.connect
    split <;> rfl
  | close | exit =>
    show (c.close s).2.filterMap Event.call? = []
    unfold Client.close
    split <;> rfl
  | recordFailure f => exact recordFailure_filterMap c Event.call? (fun _ => rfl) s
  | enter | advance | correlate => rfl

/-- The end of each action of a session is that of the action on the state behind those before it. -/
theorem performAll_getElem? (c : Client) (s : State) (steps : List (Action × Script)) (i : Nat) :
    (c.performAll steps s)[i]? =
      steps[i]?.map fun step => c.perform step.1 step.2 (c.finalState s (steps.take i)) := by
  induction steps generalizing s i with
  | nil => rfl
  | cons step steps ih =>
    cases i with
    | zero => rfl
    | succ i => exact ih (c.perform step.1 step.2 s).state i

end Calls

section Sessions

variable {c : Client} {s : State} {steps : List (Action × Script)}

theorem performAll_headers {i : Nat} {a : Action} {script : Script} {r : HttpRequest}
    (h : steps[i]? = some (a, script)) (hr : a.Sends r) :
    ∃ e k, (c.performAll steps s)[i]? = some e ∧
      (e.events.filterMap Event.call?).map (·.headers) = List.replicate k
        (c.defaultHeaders ++ r.headers ++
          correlationHeaders (correlationAfter s.correlation (steps.take i))) ∧
      (k = 0 ↔ (c.finalState s (steps.take i)).breaker.isOpen = true) := by
  have he := performAll_getElem? c s steps i
  rw [h, Option.map_some] at he
  obtain ⟨k, hcalls, hk⟩ := send_calls c r script (c.finalState s (steps.take i))
  refine ⟨_, k, he, ?_, hk⟩
  rw [perform_calls hr, hcalls, List.map_replicate, finalState_correlation]
  exact congrArg (List.replicate k) (headersFor_eq c _ r.headers)

/-- Every call of a session has the headers of its client in front. -/
theorem defaultHeaders_prefix {e : Ended ActionError Answer} (he : e ∈ c.performAll steps s)
    {call : Call} (hcall : call ∈ e.events.filterMap Event.call?) :
    c.defaultHeaders <+: call.headers := by
  obtain ⟨i, hi⟩ := List.mem_iff_getElem?.mp he
  have hperform := performAll_getElem? c s steps i
  rw [hi] at hperform
  obtain ⟨⟨a, script⟩, hstep, hend⟩ := Option.map_eq_some_iff.mp hperform.symm
  by_cases hr : ∃ r, a.Sends r
  · obtain ⟨r, hr⟩ := hr
    obtain ⟨e', k, he', hheaders, -⟩ := performAll_headers (c := c) (s := s) hstep hr
    rw [hi, Option.some.injEq] at he'
    subst he'
    have hmem := List.mem_map_of_mem (f := Call.headers) hcall
    rw [hheaders] at hmem
    rw [List.eq_of_mem_replicate hmem, List.append_assoc]
    exact List.prefix_append _ _
  · have hnone :
        (c.perform a script (c.finalState s (steps.take i))).events.filterMap Event.call? = [] :=
      perform_calls_of_none fun r h => hr ⟨r, h⟩
    rw [← hend, hnone] at hcall
    cases hcall

end Sessions

/-- Each call of an action in a session has the headers of the client, those of its request, and the
correlation id in force when the action began, if that is not empty; and it does so in all its attempts,
of which there is one at least unless the breaker is open. What came before leaves no other trace. -/
theorem session_headers (c : Client) (s : State) (steps : List (Action × Script)) :
    (∀ (i : Nat) (a : Action) (script : Script), steps[i]? = some (a, script) →
      ∃ e, (c.performAll steps s)[i]? = some e ∧
        (∀ r, a.Sends r → ∃ k,
          (e.events.filterMap Event.call?).map (·.headers) = List.replicate k
            (c.defaultHeaders ++ r.headers ++
              correlationHeaders (correlationAfter s.correlation (steps.take i))) ∧
          (k = 0 ↔ (c.finalState s (steps.take i)).breaker.isOpen = true)) ∧
        ((∀ r, ¬ a.Sends r) → e.events.filterMap Event.call? = [])) ∧
    (∀ (baseUrl target : String) (config : Config) (defaults : List Header),
      (defaults.map (·.1)).Nodup →
      (Client.make baseUrl target config defaults).defaultHeaders = defaults) ∧
    ∀ (baseUrl clientId : String) (config : Config),
      ∀ e ∈ (Client.queues baseUrl clientId config).performAll steps s,
        ∀ call ∈ e.events.filterMap Event.call?,
          call.headers.head? = some ("Client-ID", clientId) := by
  refine ⟨fun i a script hstep => ?_, fun baseUrl target config defaults h => ?_,
    fun baseUrl clientId config e he call hcall => ?_⟩
  · have he := performAll_getElem? c s steps i
    rw [hstep, Option.map_some] at he
    refine ⟨_, he, fun r hr => ?_, fun hnone => perform_calls_of_none hnone⟩
    obtain ⟨e', k, he', hheaders, hk⟩ := performAll_headers (c := c) (s := s) hstep hr
    rw [he, Option.some.injEq] at he'
    subst he'
    exact ⟨k, hheaders, hk⟩
  · exact Entries.ofPairs_of_nodup h
  · obtain ⟨rest, hrest⟩ := defaultHeaders_prefix he hcall
    rw [← hrest]
    rfl

namespace Sample

def getTwice : HttpRequest :=
  { method := "GET", endpoint := "/c", headers := [("X", "1"), ("X", "2")], more := () }

def sendTwice : Action :=
  .send (.obj [("method", .str "GET"), ("endpoint", .str "/c"),
    ("headers", .arr [.arr [.str "X", .str "1"], .arr [.str "X", .str "2"]])])

/-- A request that is tried twice under one correlation id, and one under an empty id. -/
def correlated : List (Action × Script) :=
  [(.correlate (some "a"), always (.response { status := 200 })),
    (sendTwice, timeoutThen (.response { status := 200 })),
    (.close, always (.response { status := 200 })),
    (.correlate (some ""), always (.response { status := 200 })),
    (sendTwice, always (.response { status := 200 }))]

end Sample

open Sample in
theorem session_headers_correlated :
    (∃ e k, ((Client.queues "http://h" "me").performAll correlated client.start)[1]? = some e ∧
      (e.events.filterMap Event.call?).map (·.headers) = List.replicate k
        [("Client-ID", "me"), ("X", "1"), ("X", "2"), ("X-Correlation-ID", "a")] ∧ k ≠ 0) ∧
    ∃ e k, ((Client.queues "http://h" "me").performAll correlated client.start)[4]? = some e ∧
      (e.events.filterMap Event.call?).map (·.headers) = List.replicate k
        [("Client-ID", "me"), ("X", "1"), ("X", "2")] ∧ k ≠ 0 := by
  obtain ⟨hcalls, -, -⟩ := session_headers (Client.queues "http://h" "me") client.start correlated
  have hsends : sendTwice.Sends getTwice := .send rfl
  obtain ⟨e, he, hsent, -⟩ := hcalls 1 sendTwice _ rfl
  obtain ⟨e', he', hsent', -⟩ := hcalls 4 sendTwice _ rfl
  obtain ⟨k, hheaders, hk⟩ := hsent getTwice hsends
  obtain ⟨k', hheaders', hk'⟩ := hsent' getTwice hsends
  refine ⟨⟨e, k, he, hheaders, fun h => ?_⟩, ⟨e', k', he', hheaders', fun h => ?_⟩⟩
  · exact absurd (hk.mp h) (by decide +kernel)
  · exact absurd (hk'.mp h) (by decide +kernel)

end Courier.Service
