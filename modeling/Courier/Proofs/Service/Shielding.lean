import Courier.Proofs.Service.Opening
import Courier.Proofs.Service.Storage

/-! An open breaker shields its service: every operation ends before anything is asked of the transport,
and leaves everything as it was. -/

namespace Courier.Service

open Metadata (Offered)

/-- An operation that is to reach the service, and whose arguments make a request. -/
inductive Action.Asks : Action → Prop
  | send {v : Json} {r : HttpRequest} (h : Model.check v = .ok r) : Asks (.send v)
  | metadata (p : Place) (mode : Metadata.Mode) (m : Offered) : Asks (.metadata p mode m)
  | list (queue : String) (page : Page) : Asks (.list queue page)
  | post (queue : String) (messages : Json) : Asks (.post queue messages)

/-- Metadata is offered that is no mapping of text to text. -/
def Action.Misfit : Action → Prop
  | .metadata _ _ m => ∀ entries, m ≠ .ofTexts entries
  | _ => False

/-- How an action ends that is turned away. -/
structure TurnedAway (c : Client) (s : State) (a : Action) (e : Ended ActionError Answer) : Prop where
  state_eq : e.state = s
  events : ∀ event ∈ e.events, ∃ entry, event = .logged entry
  unavailable : ¬ a.Misfit → e.result = .error (.client (.unavailable c.target))
  argument : a.Misfit → ∃ f, e.result = .error (.argument f)

section Steps

variable {c : Client} {s : State} {a : Action} {script : Script}

theorem sendThen_blocked {α : Type} (h : s.breaker.isOpen = true) (r : HttpRequest)
    (parse : Response → Except MalformedResponse (α × List Log.Entry)) :
    c.sendThen r script s parse = ⟨.error (.client (.unavailable c.target)), s,
      [.logged (c.blockedEntry r.method r.endpoint)]⟩ := by
  rw [Client.sendThen, send_blocked h]

/-- An operation that the breaker ends. -/
theorem turnedAway_view {ε α : Type} {e : Ended ε α} {x : ε} {es : List Event}
    {f : ε → ActionError} {g : α → Answer} (he : e = ⟨.error x, s, es⟩)
    (hes : ∀ event ∈ es, ∃ entry, event = .logged entry)
    (hx : f x = .client (.unavailable c.target)) (ha : ¬ a.Misfit) :
    TurnedAway c s a (e.view f g) := by
  subst he
  have hresult : (Ended.view f g ⟨.error x, s, es⟩).result =
      .error (.client (.unavailable c.target)) := congrArg Except.error hx
  exact ⟨rfl, hes, fun _ => hresult, fun hm => (ha hm).elim⟩

theorem perform_turnedAway (h : s.breaker.isOpen = true) (ha : a.Asks) :
    TurnedAway c s a (c.perform a script s) := by
  cases ha with
  | @send v r hv =>
    have he : c.perform (.send v) script s = (c.send r script s).view .client .response := by
      simp only [Client.perform, hv]
    rw [he]
    exact turnedAway_view (send_blocked h) (by simp) rfl id
  | metadata p mode m =>
    rw [perform_metadata]
    by_cases hm : ∃ entries, m = .ofTexts entries
    · obtain ⟨entries, rfl⟩ := hm
      have hfit : ¬ (Action.metadata p mode (.ofTexts entries)).Misfit := fun hne => hne entries rfl
      rw [postMetadata_texts, send_blocked h]
      exact turnedAway_view (x := .client (.unavailable c.target)) rfl (by simp) rfl hfit
    · have hne : ∀ entries, m ≠ .ofTexts entries := fun entries he => hm ⟨entries, he⟩
      obtain ⟨f, hf⟩ := postMetadata_refused c p mode script s hne
      rw [hf]
      exact ⟨rfl, by simp [Ended.view], fun hfit => (hfit hne).elim, fun _ => ⟨f, rfl⟩⟩
  | list queue page =>
    exact turnedAway_view (sendThen_blocked h _ _) (by simp) rfl id
  | post queue messages =>
    exact turnedAway_view (sendThen_blocked h _ _) (by simp) rfl id

theorem perform_script (h : s.breaker.isOpen = true) (a : Action) (script script' : Script) :
    c.perform a script s = c.perform a script' s := by
  have hsend (r : HttpRequest) : c.send r script s = c.send r script' s := by
    rw [send_blocked h, send_blocked h]
  cases a with
  | metadata p mode m => simp only [perform_metadata, Client.postMetadata, hsend]
  | send | list | post =>
    simp only [Client.perform, Client.listMessages, Client.postMessages, Client.sendThen, hsend]
  | getClient | close | enter | exit | recordFailure | advance | correlate => rfl

end Steps

section Runs

variable {c : Client} {s : State} {steps : List (Action × Script)}

theorem performAll_turnedAway (h : s.breaker.isOpen = true) (hs : ∀ step ∈ steps, step.1.Asks) :
    List.Forall₂ (fun step e => TurnedAway c s step.1 e) steps (c.performAll steps s) := by
  induction steps with
  | nil => exact .nil
  | cons step steps ih =>
    obtain ⟨ha, hrest⟩ := List.forall_mem_cons.mp hs
    have hstep : TurnedAway c s step.1 (c.perform step.1 step.2 s) := perform_turnedAway h ha
    rw [Client.performAll, hstep.state_eq]
    exact .cons hstep (ih hrest)

theorem finalState_turnedAway (h : s.breaker.isOpen = true) (hs : ∀ step ∈ steps, step.1.Asks) :
    c.finalState s steps = s := by
  induction steps with
  | nil => rfl
  | cons step steps ih =>
    obtain ⟨ha, hrest⟩ := List.forall_mem_cons.mp hs
    have hstep : TurnedAway c s step.1 (c.perform step.1 step.2 s) := perform_turnedAway h ha
    have hone : c.finalState s (step :: steps) =
      c.finalState (c.perform step.1 step.2 s).state steps := rfl
    rw [hone, hstep.state_eq, ih hrest]

theorem performAll_scripts {steps' : List (Action × Script)} (h : s.breaker.isOpen = true)
    (hs : ∀ step ∈ steps, step.1.Asks) (he : steps'.map (·.1) = steps.map (·.1)) :
    c.performAll steps' s = c.performAll steps s := by
  induction steps generalizing steps' with
  | nil => rw [List.map_eq_nil_iff.mp he]
  | cons step steps ih =>
    obtain ⟨ha, hrest⟩ := List.forall_mem_cons.mp hs
    obtain ⟨step', steps', rfl, he1, he2⟩ := List.map_eq_cons_iff.mp he
    have hstep : TurnedAway c s step.1 (c.perform step.1 step.2 s) := perform_turnedAway h ha
    have hone : c.perform step'.1 step'.2 s = c.perform step.1 step.2 s := by
      rw [he1]
      exact perform_script h step.1 step'.2 step.2
    rw [Client.performAll, Client.performAll, hone, hstep.state_eq, ih hrest he2]

end Runs

/-- While the breaker is open, operations do nothing but log: they call nobody, make no client, do not
wait, and leave the state as it is, whatever the replies would be. Each one reports that the service is
unavailable, unless its metadata is refused before. -/
theorem open_shields (c : Client) (s : State) (h : s.breaker.isOpen = true)
    (steps : List (Action × Script)) (hs : ∀ step ∈ steps, step.1.Asks) :
    List.Forall₂ (fun step e => TurnedAway c s step.1 e) steps (c.performAll steps s) ∧
    c.finalState s steps = s ∧
    ∀ steps' : List (Action × Script), steps'.map (·.1) = steps.map (·.1) →
      c.performAll steps' s = c.performAll steps s :=
  ⟨performAll_turnedAway h hs, finalState_turnedAway h hs, fun _ => performAll_scripts h hs⟩

namespace Sample

/-- The state behind a failure that opened the breaker. -/
def worn : State := (guarded 1).finalState (guarded 1).start [(sendGet, timeout)]

def knocks : List (Action × Script) :=
  [(sendGet, timeout), (.metadata .account .set (.other .null), timeout), (.list "q" {}, timeout)]

end Sample

open Sample in
theorem open_shields_worn :
    worn.breaker.isOpen = true ∧ (∀ step ∈ knocks, step.1.Asks) ∧
    (guarded 1).finalState worn knocks = worn ∧
    ∃ e e' e'', (guarded 1).performAll knocks worn = [e, e', e''] ∧
      e.result = .error (.client (.unavailable "t")) ∧ (∃ f, e'.result = .error (.argument f)) ∧
      e''.result = .error (.client (.unavailable "t")) := by
  have ho : worn.breaker.isOpen = true := by decide +kernel
  have hs : ∀ step ∈ knocks, step.1.Asks := by
    simp only [knocks, List.forall_mem_cons]
    exact ⟨.send (r := get "/c") rfl, .metadata _ _ _, .list _ _, List.forall_mem_nil _⟩
  obtain ⟨hends, hstate, -⟩ := open_shields (guarded 1) worn ho knocks hs
  refine ⟨ho, hs, hstate, ?_⟩
  rcases hends with _ | ⟨h1, _ | ⟨h2, _ | ⟨h3, ⟨⟩⟩⟩⟩
  exact ⟨_, _, _, rfl, h1.unavailable id, h2.argument (fun _ h => by cases h), h3.unavailable id⟩

end Courier.Service
