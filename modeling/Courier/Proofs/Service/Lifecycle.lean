import Courier.Proofs.Service.Connection

/-! The HTTP client along a session. It is made by the first action that needs one, serves every call until
it is closed, and is never beside another one. -/

namespace Courier.Service

/-- The two ways to close a client. -/
def Action.Closes : Action → Prop
  | .close | .exit => True
  | _ => False

/-- What an action does to the connection: it sends one request, gets the HTTP client, closes it, or
leaves it alone. -/
inductive Touched (c : Client) (script : Script) (s : State) :
    Action → Ended ActionError Answer → Prop
  | sent {a : Action} {e : Ended ActionError Answer} (r : HttpRequest) (logs logs' : List Log.Entry)
    (hevents : e.events = logs.map .logged ++ (c.send r script s).events ++ logs'.map .logged)
    (hstate : e.state = (c.send r script s).state) (hget : a ≠ .getClient) (hclose : ¬ a.Closes)
    (hresult : ∀ f, e.result ≠ .error (.argument f)) : Touched c script s a e
  | got : Touched c script s .getClient ⟨.ok (.client s.connected), (c.connect s).1, (c.connect s).2⟩
  | shut {a : Action} (h : a.Closes) :
    Touched c script s a ⟨.ok .nothing, (c.close s).1, (c.close s).2⟩
  | idle {a : Action} {e : Ended ActionError Answer} (logs : List Log.Entry)
    (hevents : e.events = logs.map .logged) (hconnected : e.state.connected = s.connected)
    (hget : a ≠ .getClient) (hclose : ¬ a.Closes) : Touched c script s a e

section Actions

variable {c : Client} {a : Action} {script : Script} {s : State}

theorem sendThen_events {α : Type} (c : Client) (r : HttpRequest) (script : Script) (s : State)
    (parse : Response → Except MalformedResponse (α × List Log.Entry)) :
    ∃ logs : List Log.Entry,
      (c.sendThen r script s parse).events = (c.send r script s).events ++ logs.map .logged := by
  simp only [Client.sendThen]
  split
  · exact ⟨[], by simp⟩
  · split
    · exact ⟨[], by simp⟩
    · exact ⟨_, rfl⟩

theorem touched_sendThen {α : Type} (r : HttpRequest)
    (parse : Response → Except MalformedResponse (α × List Log.Entry)) (g : α → Answer)
    (hget : a ≠ .getClient) (hclose : ¬ a.Closes) :
    Touched c script s a ((c.sendThen r script s parse).view .ofQueue g) := by
  obtain ⟨logs, hlogs⟩ := sendThen_events c r script s parse
  refine .sent r [] logs hlogs (sendThen_state c script s r parse) hget hclose fun f => ?_
  simp only [Ended.view]
  cases (c.sendThen r script s parse).result with
  | ok v => exact nofun
  | error x => cases x <;> exact nofun

theorem touched_postMetadata (p : Place) (mode : Metadata.Mode) (m : Metadata.Offered) :
    Touched c script s (.metadata p mode m)
      ((c.postMetadata p mode m script s).view .ofStorage .existence) := by
  by_cases h : ∃ entries, m = .ofTexts entries
  · obtain ⟨entries, rfl⟩ := h
    rw [postMetadata_texts]
    refine .sent (p.request mode entries)
      [(Metadata.Binder.ofScope p.scope mode).boundEntry entries.length] [] (by simp [Ended.view])
      rfl nofun id fun f => ?_
    simp only [Ended.view]
    cases hx : Client.existence (c.send (p.request mode entries) script s).result with
    | ok found => exact nofun
    | error x =>
      obtain ⟨y, rfl, -⟩ := existence_eq_error_iff.mp hx
      exact nofun
  · obtain ⟨f, hf⟩ := postMetadata_refused c p mode script s fun entries he => h ⟨entries, he⟩
    rw [hf]
    exact .idle [] rfl rfl nofun id

theorem perform_touched (c : Client) (a : Action) (script : Script) (s : State) :
    Touched c script s a (c.perform a script s) := by
  cases a with
  | send v =>
    simp only [Client.perform]
    split
    · next r hr =>
      refine .sent r [] [] (by simp [Ended.view]) rfl (by simp) id fun f => ?_
      simp only [Ended.view]
      cases (c.send r script s).result <;> simp
    · exact .idle [] rfl rfl (by simp) id
  | metadata p mode m =>
    rw [perform_metadata]
    exact touched_postMetadata p mode m
  | list q page => exact touched_sendThen _ _ _ (by simp) id
  | post q ms => exact touched_sendThen _ _ _ (by simp) id
  | getClient => exact .got
  | close | exit => exact .shut trivial
  | recordFailure f =>
    obtain ⟨logs, hlogs⟩ := recordFailure_events c s
    exact .idle logs hlogs rfl (by simp) id
  | enter | advance | correlate => exact .idle [] rfl rfl (by simp) id

theorem Touched.connected {e : Ended ActionError Answer} (h : Touched c script s a e) :
    Connected s.connected e.events e.state.connected := by
  cases h with
  | sent r logs logs' hevents hstate =>
    rw [hevents, hstate]
    exact ((connected_logged logs _).append (send_connected c r script s)).append
      (connected_logged logs' _)
  | got =>
    cases hs : s.connected with
    | true =>
      simp only [Client.connect, hs, if_true]
      exact .nil true
    | false =>
      simp only [Client.connect, hs, Bool.false_eq_true, if_false]
      exact .created _ (.nil true)
  | shut h =>
    cases hs : s.connected with
    | true =>
      simp only [Client.close, hs, if_true]
      exact .closed (.logged _ (.nil false))
    | false =>
      simp only [Client.close, hs, Bool.false_eq_true, if_false]
      exact .nil false
  | idle logs hevents hconnected =>
    rw [hevents, hconnected]
    exact connected_logged logs _

end Actions

/-- What an action makes and closes. -/
structure Handled (c : Client) (s : State) (a : Action) (e : Ended ActionError Answer) : Prop where
  one : e.events.filterMap Event.creation? = [] ∨
    e.events.filterMap Event.creation? = [c.config.timeouts]
  creates_iff : e.events.filterMap Event.creation? ≠ [] ↔
    s.connected = false ∧ (a = .getClient ∨ e.events.filterMap Event.call? ≠ [])
  blocked : s.breaker.isOpen = true → a ≠ .getClient → e.events.filterMap Event.creation? = []
  refused : ∀ f, e.result = .error (.argument f) → e.events.filterMap Event.creation? = []
  closes_iff : Event.closed ∈ e.events ↔ s.connected = true ∧ a.Closes
  closed : a.Closes → s.connected = true →
    e.state = { s with connected := false } ∧ e.events = [.closed, .logged c.closedEntry]
  closed_before : a.Closes → s.connected = false → e.state = s ∧ e.events = []

section Handling

variable {c : Client} {a : Action} {script : Script} {s : State} {e : Ended ActionError Answer}

theorem handled_sent {r : HttpRequest} {logs logs' : List Log.Entry}
    (hevents : e.events =
      logs.map .logged ++ (c.send r script s).events ++ logs'.map .logged)
    (hget : a ≠ .getClient) (hclose : ¬ a.Closes) (hresult : ∀ f, e.result ≠ .error (.argument f)) :
    Handled c s a e := by
  have hsame {α : Type} {f : Event → Option α} (hf : ∀ l, f (.logged l) = none) :
      e.events.filterMap f = (c.send r script s).events.filterMap f := by
    rw [hevents, List.filterMap_append, List.filterMap_append, filterMap_logged hf,
      filterMap_logged hf, List.nil_append, List.append_nil]
  have hmade := (hsame fun _ => rfl).trans (send_creations c r script s)
  obtain ⟨k, hcalls, hk⟩ := send_calls c r script s
  rw [← hsame fun _ => rfl] at hcalls
  have hclosings := (hsame fun _ => rfl).trans (send_closings c r script s)
  refine ⟨?_, ?_, fun h _ => ?_, fun f hf => (hresult f hf).elim, ?_, fun h => (hclose h).elim,
    fun h => (hclose h).elim⟩
  · rw [hmade]
    split
    · exact .inl rfl
    · exact .inr rfl
  · rw [hmade, hcalls]
    cases hopen : s.breaker.isOpen <;> cases hconnected : s.connected <;> simp_all
  · rw [hmade, h]
    rfl
  · rw [closed_mem_iff, hclosings]
    exact iff_of_false (fun h => h rfl) fun h => hclose h.2

theorem handled_idle {logs : List Log.Entry} (hevents : e.events = logs.map .logged)
    (hget : a ≠ .getClient) (hclose : ¬ a.Closes) : Handled c s a e := by
  have hnone {α : Type} {f : Event → Option α} (hf : ∀ l, f (.logged l) = none) :
      e.events.filterMap f = [] := by
    rw [hevents]
    exact filterMap_logged hf logs
  refine ⟨.inl (hnone fun _ => rfl), ?_, fun _ _ => hnone fun _ => rfl, fun _ _ => hnone fun _ => rfl,
    ?_, fun h => (hclose h).elim, fun h => (hclose h).elim⟩
  · rw [hnone fun _ => rfl, hnone fun _ => rfl]
    simp [hget]
  · rw [closed_mem_iff, hnone fun _ => rfl]
    exact iff_of_false (fun h => h rfl) fun h => hclose h.2

theorem handled_shut (h : a.Closes) :
    Handled c s a ⟨.ok .nothing, (c.close s).1, (c.close s).2⟩ := by
  have hget : a ≠ .getClient := by
    rintro rfl
    exact h
  cases hs : s.connected with
  | true =>
    have hclose : c.close s = ({ s with connected := false }, [.closed, .logged c.closedEntry]) := by
      simp only [Client.close, hs, if_true]
    rw [hclose]
    have hno : s.connected ≠ false := by simp [hs]
    exact ⟨.inl rfl, by simp [Event.creation?, hs], fun _ _ => rfl, fun _ _ => rfl, by simp [hs, h],
      fun _ _ => ⟨rfl, rfl⟩, fun _ ho => (hno ho).elim⟩
  | false =>
    have hclose : c.close s = (s, []) := by
      simp only [Client.close, hs, Bool.false_eq_true, if_false]
    rw [hclose]
    have hno : s.connected ≠ true := by simp [hs]
    exact ⟨.inl rfl, by simp [hget], fun _ _ => rfl, fun _ _ => rfl, by simp [hs],
      fun _ ho => (hno ho).elim, fun _ _ => ⟨rfl, rfl⟩⟩

theorem handled_got :
    Handled c s .getClient ⟨.ok (.client s.connected), (c.connect s).1, (c.connect s).2⟩ := by
  cases hs : s.connected with
  | true =>
    have hconnect : c.connect s = (s, []) := by
      simp only [Client.connect, hs, if_true]
    rw [hconnect]
    exact ⟨.inl rfl, by simp [hs], fun _ _ => rfl, fun _ _ => rfl, by simp [Action.Closes],
      fun h => h.elim, fun h => h.elim⟩
  | false =>
    have hconnect : c.connect s = ({ s with connected := true }, [.created c.config.timeouts]) := by
      simp only [Client.connect, hs, Bool.false_eq_true, if_false]
    rw [hconnect]
    exact ⟨.inr rfl, by simp [Event.creation?, hs], fun _ h => (h rfl).elim, by simp,
      by simp [Action.Closes], fun h => h.elim, fun h => h.elim⟩

theorem Touched.handled (h : Touched c script s a e) : Handled c s a e := by
  cases h with
  | sent r logs logs' hevents hstate hget hclose hresult =>
    exact handled_sent hevents hget hclose hresult
  | got => exact handled_got
  | shut h => exact handled_shut h
  | idle logs hevents hconnected hget hclose => exact handled_idle hevents hget hclose

theorem Connected.same_client {o o' : Bool} {before between after : List Event} {call call' : Call}
    (h : Connected o (before ++ .called call :: (between ++ .called call' :: after)) o')
    (hopen : .closed ∉ between) : creations between = 0 := by
  obtain ⟨o, -, hcall⟩ := h.split
  cases hcall with
  | called _ hrest =>
    obtain ⟨o', hbetween, -⟩ := hrest.split
    exact hbetween.no_creation hopen

/-- All attempts of one request go through the same HTTP client. -/
theorem Touched.same_client {before between after : List Event} {call call' : Call}
    (h : Touched c script s a e)
    (he : e.events = before ++ .called call :: (between ++ .called call' :: after)) :
    creations between = 0 := by
  refine (he ▸ h.connected).same_client fun hmem => ?_
  have hcalled : Event.called call ∈ e.events := by simp [he]
  have hclosed : Event.closed ∈ e.events := by simp [he, hmem]
  obtain ⟨hs, ha⟩ := h.handled.closes_iff.mp hclosed
  rw [(h.handled.closed ha hs).2] at hcalled
  simp at hcalled

end Handling

section Sessions

variable {c : Client} {steps : List (Action × Script)}

theorem performAll_connected (s : State) (steps : List (Action × Script)) :
    Connected s.connected ((c.performAll steps s).flatMap (·.events))
      (c.finalState s steps).connected := by
  induction steps generalizing s with
  | nil => exact .nil _
  | cons step steps ih =>
    exact (perform_touched c step.1 step.2 s).connected.append (ih _)

theorem performAll_take (s : State) (steps : List (Action × Script)) (i : Nat) :
    c.performAll (steps.take i) s = (c.performAll steps s).take i := by
  induction steps generalizing s i with
  | nil => cases i <;> rfl
  | cons step steps ih =>
    cases i with
    | zero => rfl
    | succ i => exact congrArg (List.cons _) (ih _ i)

end Sessions

/-- Along a session at most one HTTP client is open at any point, and every call goes through one. It is
the same one for two calls with no closing between them, so for all attempts of a request. Behind each
action there is one open exactly if the state says so; and which actions make or close one is as
`Handled` says. -/
theorem one_client_at_most (c : Client) (steps : List (Action × Script)) :
    let trace := (c.performAll steps c.start).flatMap (·.events)
    (∀ before after, trace = before ++ after →
      closings before ≤ creations before ∧ creations before ≤ closings before + 1) ∧
    (∀ before call after, trace = before ++ .called call :: after →
      creations before = closings before + 1) ∧
    (∀ before call between call' after,
      trace = before ++ .called call :: (between ++ .called call' :: after) → .closed ∉ between →
      creations between = 0) ∧
    (∀ e ∈ c.performAll steps c.start, ∀ before call between call' after,
      e.events = before ++ .called call :: (between ++ .called call' :: after) →
      creations between = 0) ∧
    (∀ i, creations (((c.performAll steps c.start).take i).flatMap (·.events)) =
      closings (((c.performAll steps c.start).take i).flatMap (·.events)) +
        (c.finalState c.start (steps.take i)).connected.toNat) ∧
    c.closedEntry.fields.get? "event_type" = some (.type .shutdown) ∧
    ∀ i a script, steps[i]? = some (a, script) →
      ∃ e, (c.performAll steps c.start)[i]? = some e ∧
        Handled c (c.finalState c.start (steps.take i)) a e := by
  intro trace
  have hsession : Connected false trace (c.finalState c.start steps).connected :=
    performAll_connected c.start steps
  refine ⟨fun before after he => ?_, fun before call after he => ?_,
    fun before call between call' after he hopen => (he ▸ hsession).same_client hopen,
    fun e hmem before call between call' after he => ?_, fun i => ?_, rfl,
    fun i a script hstep => ?_⟩
  · rw [he] at hsession
    obtain ⟨o, hbefore, -⟩ := hsession.split
    have hbalance := hbefore.balance
    have ho := o.toNat_le
    simp only [Bool.toNat_false, Nat.add_zero] at hbalance
    omega
  · rw [he] at hsession
    obtain ⟨o, hbefore, hcall⟩ := hsession.split
    cases hcall
    exact hbefore.balance
  · obtain ⟨i, hi⟩ := List.mem_iff_getElem?.mp hmem
    rw [performAll_getElem?, Option.map_eq_some_iff] at hi
    obtain ⟨⟨a, script⟩, -, rfl⟩ := hi
    exact (perform_touched c a script _).same_client he
  · have htaken := performAll_connected (c := c) c.start (steps.take i)
    rw [performAll_take] at htaken
    exact htaken.balance
  · have he := performAll_getElem? c c.start steps i
    rw [hstep, Option.map_some] at he
    exact ⟨_, he, (perform_touched c a script _).handled⟩

end Courier.Service
