import Courier.Proofs.Service.Headers

/-! The HTTP client along events. It is made only where none is open, and only an open one is called or
closed. The attempts of a request make one at most, and close none. -/

namespace Courier.Service

def Event.closing? : Event → Option Unit
  | closed => some ()
  | _ => none

/-- How many HTTP clients were made along events. -/
def creations (es : List Event) : Nat := (es.filterMap Event.creation?).length

/-- How many HTTP clients were closed along events. -/
def closings (es : List Event) : Nat := (es.filterMap Event.closing?).length

/-- Events between two states of the connection: an HTTP client is made only where none is open, and
only an open one is called or closed. -/
inductive Connected : Bool → List Event → Bool → Prop
  | nil (o : Bool) : Connected o [] o
  | created {es : List Event} {o : Bool} (t : Timeouts) (h : Connected true es o) :
    Connected false (.created t :: es) o
  | closed {es : List Event} {o : Bool} (h : Connected false es o) :
    Connected true (.closed :: es) o
  | called {es : List Event} {o : Bool} (call : Call) (h : Connected true es o) :
    Connected true (.called call :: es) o
  | slept {es : List Event} {o o' : Bool} (w : Double) (h : Connected o es o') :
    Connected o (.slept w :: es) o'
  | logged {es : List Event} {o o' : Bool} (entry : Log.Entry) (h : Connected o es o') :
    Connected o (.logged entry :: es) o'

namespace Connected

variable {o o' o'' : Bool} {es es' : List Event}

theorem append (h : Connected o es o') (h' : Connected o' es' o'') : Connected o (es ++ es') o'' := by
  induction h with
  | nil o => exact h'
  | created t _ ih => exact .created t (ih h')
  | closed _ ih => exact .closed (ih h')
  | called call _ ih => exact .called call (ih h')
  | slept w _ ih => exact .slept w (ih h')
  | logged entry _ ih => exact .logged entry (ih h')

theorem split (h : Connected o (es ++ es') o'') :
    ∃ o', Connected o es o' ∧ Connected o' es' o'' := by
  induction es generalizing o with
  | nil => exact ⟨o, .nil o, h⟩
  | cons e es ih =>
    cases h with
    | created t h =>
      obtain ⟨o', h, h'⟩ := ih h
      exact ⟨o', .created t h, h'⟩
    | closed h =>
      obtain ⟨o', h, h'⟩ := ih h
      exact ⟨o', .closed h, h'⟩
    | called call h =>
      obtain ⟨o', h, h'⟩ := ih h
      exact ⟨o', .called call h, h'⟩
    | slept w h =>
      obtain ⟨o', h, h'⟩ := ih h
      exact ⟨o', .slept w h, h'⟩
    | logged entry h =>
      obtain ⟨o', h, h'⟩ := ih h
      exact ⟨o', .logged entry h, h'⟩

/-- What is made and not closed is what is open. -/
theorem balance (h : Connected o es o') : creations es + o.toNat = closings es + o'.toNat := by
  induction h with
  | nil o => rfl
  | created t _ ih =>
    simp only [creations, closings, Event.creation?, Event.closing?, List.filterMap_cons,
      List.length_cons, Bool.toNat_true, Bool.toNat_false] at ih ⊢
    omega
  | closed _ ih =>
    simp only [creations, closings, Event.creation?, Event.closing?, List.filterMap_cons,
      List.length_cons, Bool.toNat_true, Bool.toNat_false] at ih ⊢
    omega
  | called | slept | logged =>
    assumption

/-- While nothing is closed, an open HTTP client stays the only one. -/
theorem no_creation (h : Connected true es o) (hopen : .closed ∉ es) : creations es = 0 := by
  generalize hc : true = connected at h
  induction h with
  | nil => rfl
  | created => cases hc
  | closed => exact (hopen List.mem_cons_self).elim
  | called _ _ ih | slept _ _ ih | logged _ _ ih =>
    exact ih (fun hmem => hopen (List.mem_cons_of_mem _ hmem)) hc

theorem of_logs (h : ∀ e ∈ es, ∃ entry, e = .logged entry) (o : Bool) : Connected o es o := by
  induction es with
  | nil => exact .nil o
  | cons e es ih =>
    obtain ⟨⟨entry, rfl⟩, hrest⟩ := List.forall_mem_cons.mp h
    exact .logged entry (ih hrest)

end Connected

section Requests

variable {c : Client} {endpoint : String} {call : Call} {script : Script}
variable {before retries : Nat} {s s' : State} {es : List Event}

theorem exchange_connected (c : Client) (call : Call) (reply : Reply) (s : State) :
    Connected s.connected (c.exchange call reply s).2 (c.exchange call reply s).1.connected := by
  simp only [Client.exchange, Client.connect]
  cases h : s.connected with
  | true =>
    simp only [if_true, h]
    exact .called call (.nil true)
  | false =>
    simp only [Bool.false_eq_true, if_false]
    exact .created _ (.called call (.nil true))

theorem exchange_creations (c : Client) (call : Call) (reply : Reply) (s : State) :
    (c.exchange call reply s).2.filterMap Event.creation? =
      if s.connected then [] else [c.config.timeouts] := by
  simp only [Client.exchange, Client.connect]
  split <;> rfl

theorem Tried.connected (h : Tried c endpoint call script before retries s s' es) :
    Connected s.connected es s'.connected := by
  induction h with
  | last before s => exact exchange_connected c call (script before) s
  | @again before n s s' es f hj later ih =>
    have hwaited : Connected (c.exchange call (script before) s).1.connected
        (c.backOff call.method endpoint (before + 1) f (c.exchange call (script before) s).1).2
        (c.exchange call (script before) s).1.connected :=
      .logged _ (.slept _ (.nil _))
    exact ((exchange_connected c call (script before) s).append hwaited).append ih

/-- Only the first attempt can find no HTTP client open. -/
theorem Tried.creations (h : Tried c endpoint call script before retries s s' es) :
    es.filterMap Event.creation? = if s.connected then [] else [c.config.timeouts] := by
  induction h with
  | last before s => exact exchange_creations c call (script before) s
  | @again before n s s' es f hj later ih =>
    have hwaited : (c.backOff call.method endpoint (before + 1) f
        (c.exchange call (script before) s).1).2.filterMap Event.creation? = [] := rfl
    have hconnected : (c.backOff call.method endpoint (before + 1) f
        (c.exchange call (script before) s).1).1.connected = true := by
      simp [Client.backOff, Client.exchange, connect_state]
    rw [hconnected, if_pos rfl] at ih
    rw [List.filterMap_append, List.filterMap_append, exchange_creations, hwaited, ih,
      List.append_nil, List.append_nil]

theorem recordFailure_events (c : Client) (s : State) :
    ∃ logs : List Log.Entry, (c.recordFailure s).2 = logs.map .logged := by
  simp only [Client.recordFailure]
  split
  · exact ⟨[c.openedEntry], rfl⟩
  · exact ⟨[c.openedEntry], rfl⟩
  · exact ⟨[], rfl⟩
  · exact ⟨[], rfl⟩

theorem complete_events (c : Client) (method endpoint status : String) (start : Double) (s : State) :
    ∃ logs : List Log.Entry,
      (c.complete method endpoint status start s).events = logs.map .logged := by
  simp only [Client.complete]
  split
  · exact ⟨[_], rfl⟩
  · exact ⟨[], rfl⟩

theorem conclude_events (c : Client) (r : HttpRequest) (url : String) (start : Double)
    (tried : Ended ClientError Response) :
    ∃ logs : List Log.Entry,
      (c.conclude r url start tried).events = tried.events ++ logs.map .logged := by
  obtain ⟨logs, hlogs⟩ : ∃ logs : List Log.Entry,
      (if Client.recordable tried.result then c.recordFailure tried.state
        else (tried.state, [])).2 = logs.map .logged := by
    split
    · exact recordFailure_events c tried.state
    · exact ⟨[], rfl⟩
  obtain ⟨logs', hlogs'⟩ := complete_events c r.method r.endpoint (Client.statusLabel tried.result)
    start (if Client.recordable tried.result then c.recordFailure tried.state else (tried.state, [])).1
  refine ⟨logs ++ logs', ?_⟩
  simp only [Client.conclude]
  rw [hlogs, hlogs', List.map_append, List.append_assoc]

theorem connected_logged (logs : List Log.Entry) (o : Bool) :
    Connected o (logs.map .logged) o :=
  .of_logs (by simp) o

theorem send_connected (c : Client) (r : HttpRequest) (script : Script) (s : State) :
    Connected s.connected (c.send r script s).events (c.send r script s).state.connected := by
  by_cases h : s.breaker.isOpen = true
  · rw [send_blocked h]
    exact .logged _ (.nil _)
  · rw [Bool.not_eq_true] at h
    obtain ⟨n, t, es, -, ht, -, -, he⟩ := send_tried c r script h
    obtain ⟨logs, hlogs⟩ := conclude_events c r (c.baseUrl ++ r.endpoint) s.clock
      ⟨(judge (script n)).final, t, es⟩
    rw [he, hlogs, conclude_state]
    exact ht.connected.append (connected_logged logs _)

/-- A request makes an HTTP client if it is let through and finds none open. -/
theorem send_creations (c : Client) (r : HttpRequest) (script : Script) (s : State) :
    (c.send r script s).events.filterMap Event.creation? =
      if s.breaker.isOpen || s.connected then [] else [c.config.timeouts] := by
  by_cases h : s.breaker.isOpen = true
  · rw [send_blocked h, h]
    rfl
  · rw [Bool.not_eq_true] at h
    obtain ⟨n, t, es, -, ht, -, -, he⟩ := send_tried c r script h
    rw [he, conclude_filterMap _ _ _ _ _ _ fun _ => rfl, h]
    exact ht.creations

theorem Tried.closings (h : Tried c endpoint call script before retries s s' es) :
    es.filterMap Event.closing? = [] := by
  induction h with
  | last before s => exact exchange_filterMap c call (script before) s _ fun _ => rfl
  | @again before n s s' es f hj later ih =>
    rw [List.filterMap_append, List.filterMap_append, exchange_filterMap _ _ _ _ _ fun _ => rfl, ih]
    rfl

theorem send_closings (c : Client) (r : HttpRequest) (script : Script) (s : State) :
    (c.send r script s).events.filterMap Event.closing? = [] := by
  by_cases h : s.breaker.isOpen = true
  · rw [send_blocked h]
    rfl
  · rw [Bool.not_eq_true] at h
    obtain ⟨n, t, es, -, ht, -, -, he⟩ := send_tried c r script h
    rw [he, conclude_filterMap _ _ _ _ _ _ fun _ => rfl]
    exact ht.closings

theorem filterMap_logged {α : Type} {f : Event → Option α} (hf : ∀ l, f (.logged l) = none)
    (logs : List Log.Entry) : (logs.map Event.logged).filterMap f = [] := by
  simp [hf]

theorem closed_mem_iff {es : List Event} : .closed ∈ es ↔ es.filterMap Event.closing? ≠ [] := by
  rw [ne_eq, List.filterMap_eq_nil_iff, not_forall]
  constructor
  · exact fun h => ⟨.closed, fun hnone => nomatch hnone h⟩
  · rintro ⟨e, he⟩
    cases e with
    | closed => exact Classical.not_not.mp fun hmem => he fun h => (hmem h).elim
    | created | called | slept | logged => exact (he fun _ => rfl).elim

end Requests

end Courier.Service
