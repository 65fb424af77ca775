import Courier.Proofs.Service.Sending

/-! Sessions. To the breaker and the metrics an action is one request, one recorded failure, or
nothing, so that what these three preserve holds all along every session. -/

namespace Courier.Service

/-- What an action makes of a state, and the calls that it makes. -/
inductive Performed (c : Client) (script : Script) (s : State) : State → List Call → Prop
  | sent (r : HttpRequest) :
    Performed c script s (c.send r script s).state
      ((c.send r script s).events.filterMap Event.call?)
  | recorded : Performed c script s (c.recordFailure s).1 []
  | idle {s' : State} (hb : s'.breaker = s.breaker) (hm : s'.metrics = s.metrics)
      (hc : s'.clock.isFinite = true → s.clock.isFinite = true) : Performed c script s s' []

section Actions

variable (c : Client) (script : Script) (s : State)

theorem calls_map_logged (entries : List Log.Entry) :
    (entries.map Event.logged).filterMap Event.call? = [] := by
  simp [Event.call?]

section Asking

variable {α : Type} (r : HttpRequest)
variable (parse : Response → Except MalformedResponse (α × List Log.Entry))

theorem sendThen_state : (c.sendThen r script s parse).state = (c.send r script s).state := by
  simp only [Client.sendThen]
  split
  · rfl
  · split <;> rfl

theorem sendThen_calls :
    (c.sendThen r script s parse).events.filterMap Event.call? =
      (c.send r script s).events.filterMap Event.call? := by
  simp only [Client.sendThen]
  split
  · rfl
  · split
    · rfl
    · rw [List.filterMap_append, calls_map_logged, List.append_nil]

theorem performed_sendThen :
    Performed c script s (c.sendThen r script s parse).state
      ((c.sendThen r script s parse).events.filterMap Event.call?) := by
  rw [sendThen_state, sendThen_calls]
  exact .sent r

end Asking

/-- Each operation on metadata is the one of its own place and its own mode. -/
theorem changeMetadata_eq (p : Place) (mode : Metadata.Mode) (m : Metadata.Offered) :
    c.changeMetadata m script s p mode = c.postMetadata p mode m script s := by
  cases p <;> cases mode <;> rfl

theorem perform_metadata (p : Place) (mode : Metadata.Mode) (m : Metadata.Offered) :
    c.perform (.metadata p mode m) script s =
      (c.postMetadata p mode m script s).view .ofStorage .existence := by
  rw [Client.perform, changeMetadata_eq]

theorem performed_postMetadata (p : Place) (mode : Metadata.Mode) (m : Metadata.Offered) :
    Performed c script s (c.postMetadata p mode m script s).state
      ((c.postMetadata p mode m script s).events.filterMap Event.call?) := by
  unfold Client.postMetadata
  split
  · exact .idle rfl rfl id
  · exact .sent _

theorem performed (a : Action) :
    Performed c script s (c.perform a script s).state
      ((c.perform a script s).events.filterMap Event.call?) := by
  cases a with
  | send v =>
    simp only [Client.perform]
    split
    · exact .sent _
    · exact .idle rfl rfl id
  | metadata p mode m =>
    rw [perform_metadata]
    exact performed_postMetadata c script s p mode m
  | list q page => exact performed_sendThen c script s _ _
  | post q ms => exact performed_sendThen c script s _ _
  | getClient =>
    cases h : s.connected <;> simp only [Client.perform, Client.connect, h] <;>
      exact .idle rfl rfl id
  | close | exit =>
    cases h : s.connected <;> simp only [Client.perform, Client.close, h] <;> exact .idle rfl rfl id
  | advance => exact .idle rfl rfl Double.isFinite_of_add
  | enter | correlate => exact .idle rfl rfl id
  | recordFailure f =>
    simp only [Client.perform, recordFailure_filterMap c Event.call? fun _ => rfl]
    exact .recorded

end Actions

section Runs

variable {c : Client} {s : State}

/-- What every action preserves that ends well holds after each action of a session that all end
well. -/
theorem performAll_invariant {P Q : State → Prop}
    (hstep : ∀ a script s, P s → Q (c.perform a script s).state → P (c.perform a script s).state)
    (h : P s) {steps : List (Action × Script)} (hq : ∀ e ∈ c.performAll steps s, Q e.state) :
    ∀ e ∈ c.performAll steps s, P e.state := by
  induction steps generalizing s with
  | nil => exact fun e he => nomatch he
  | cons step steps ih =>
    obtain ⟨a, script⟩ := step
    simp only [Client.performAll, List.forall_mem_cons] at hq ⊢
    have hs := hstep a script s h hq.1
    exact ⟨hs, ih hs hq.2⟩

theorem finalState_invariant {P : State → Prop}
    (hstep : ∀ a script s, P s → P (c.perform a script s).state)
    (h : P s) (steps : List (Action × Script)) : P (c.finalState s steps) := by
  induction steps generalizing s with
  | nil => exact h
  | cons step steps ih => exact ih (hstep step.1 step.2 s h)

theorem finalState_eq_or_mem (s : State) (steps : List (Action × Script)) :
    c.finalState s steps = s ∨
      ∃ e ∈ c.performAll steps s, e.state = c.finalState s steps := by
  induction steps generalizing s with
  | nil => exact .inl rfl
  | cons step steps ih =>
    refine .inr ?_
    rcases ih (c.perform step.1 step.2 s).state with h | ⟨e, he, h⟩
    · exact ⟨_, List.mem_cons_self, h.symm⟩
    · exact ⟨e, List.mem_cons_of_mem _ he, h⟩

theorem finalState_append (s : State) (steps more : List (Action × Script)) :
    c.finalState s (steps ++ more) = c.finalState (c.finalState s steps) more :=
  List.foldl_append

end Runs

end Courier.Service
