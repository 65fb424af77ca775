import Courier.Proofs.Number.Order
import Courier.Proofs.Number.Rounding
import Courier.Proofs.Service.Sending
import Mathlib.Order.Monotone.Basic

/-! The waits of a request. They double from one second on, within the bounds of the configuration, and
each stands between two calls. -/

namespace Courier.Service

/-- The wait after the attempt of a number, from one on, by the bounds of a configuration. -/
def backoff (least most : ℚ) (attempt : Nat) : ℚ :=
  max (max 0 least) (min (2 ^ (attempt - 1)) most)

section Schedule

variable (least most : ℚ)

theorem backoff_mono : Monotone (backoff least most) := by
  intro m n h
  have hpow : (2 : ℚ) ^ (m - 1) ≤ 2 ^ (n - 1) := pow_le_pow_right₀ (by norm_num) (by omega)
  exact max_le_max_left _ (min_le_min_right _ hpow)

theorem le_backoff (n : Nat) : max 0 least ≤ backoff least most n := le_max_left _ _

theorem backoff_le (n : Nat) : backoff least most n ≤ max (max 0 least) most :=
  max_le_max_left _ (min_le_right _ _)

variable {least most}

theorem Config.waitAfter_toRat? {config : Config} (hleast : config.retryMinWait.toRat? = some least)
    (hmost : config.retryMaxWait.toRat? = some most) (n : Nat) :
    (config.waitAfter n).toRat? = some (backoff least most n) := by
  have hpow : (Double.finite ((power 2 (n - 1) : Nat) : ℚ)).toRat? = some ((2 : ℚ) ^ (n - 1)) :=
    congrArg some (cast_power 2 (n - 1))
  have hzero : Double.zero.toRat? = some 0 := rfl
  exact Double.maximum_toRat? (Double.maximum_toRat? hzero hleast) (Double.minimum_toRat? hpow hmost)

end Schedule

/-- What an event is to the rhythm of a request: a call or a wait. -/
def Event.beat? : Event → Option (Call ⊕ Double)
  | called c => some (.inl c)
  | slept x => some (.inr x)
  | _ => none

/-- One call and then so many waits, each with another call behind it. -/
def rhythm (call : Call) (wait : Nat → Double) : (waits : Nat) → List (Call ⊕ Double)
  | 0 => [.inl call]
  | n + 1 => .inl call :: .inr (wait 0) :: rhythm call (fun i => wait (i + 1)) n

section Rhythm

variable {call : Call}

/-- A wait in a rhythm comes right behind its call, and is not the end. -/
theorem rhythm_split {wait : Nat → Double} {n : Nat} {before after : List (Call ⊕ Double)}
    {w : Double} (h : rhythm call wait n = before ++ .inr w :: after) :
    (before.filterMap Sum.getLeft?).length = (before.filterMap Sum.getRight?).length + 1 ∧
    w = wait (before.filterMap Sum.getRight?).length ∧ call ∈ after.filterMap Sum.getLeft? := by
  induction n generalizing wait before with
  | zero =>
    rcases before with _ | ⟨b, _ | _⟩ <;> simp [rhythm] at h
  | succ n ih =>
    rcases before with _ | ⟨b, _ | ⟨b', before⟩⟩
    · simp [rhythm] at h
    · obtain ⟨rfl, rfl, rfl⟩ : .inl call = b ∧ wait 0 = w ∧
          rhythm call (fun i => wait (i + 1)) n = after := by
        simpa [rhythm] using h
      refine ⟨rfl, rfl, ?_⟩
      cases n <;> simp [rhythm]
    · obtain ⟨rfl, rfl, hrest⟩ : .inl call = b ∧ .inr (wait 0) = b' ∧
          rhythm call (fun i => wait (i + 1)) n = before ++ .inr w :: after := by
        simpa [rhythm] using h
      obtain ⟨hcalls, hw, hafter⟩ := ih hrest
      exact ⟨congrArg Nat.succ hcalls, hw, hafter⟩

theorem Tried.beats {c : Client} {endpoint : String} {script : Script} {before retries : Nat}
    {s s' : State} {es : List Event} (h : Tried c endpoint call script before retries s s' es) :
    es.filterMap Event.beat? =
      rhythm call (fun i => c.config.waitAfter (before + i + 1)) retries := by
  induction h with
  | last before s => exact exchange_filterMap c call (script before) s _ fun _ => rfl
  | @again before n s s' es f hj later ih =>
    have hwait : (c.backOff call.method endpoint (before + 1) f
        (c.exchange call (script before) s).1).2.filterMap Event.beat? =
          [.inr (c.config.waitAfter (before + 1))] := rfl
    rw [List.filterMap_append, List.filterMap_append, exchange_filterMap _ _ _ _ _ fun _ => rfl, ih,
      hwait]
    simp [rhythm, Event.beat?, Nat.add_assoc, Nat.add_comm 1]

end Rhythm

section Send

variable {c : Client} {r : HttpRequest} {script : Script} {s : State}

/-- A request that is let through makes one call more than it waits, and waits by its
configuration. -/
theorem send_beats (c : Client) (r : HttpRequest) (script : Script)
    (h : s.breaker.isOpen = false) :
    ∃ n, (c.send r script s).events.filterMap Event.beat? =
        rhythm (c.callFor s.correlation r) (fun i => c.config.waitAfter (i + 1)) n ∧
      ((c.send r script s).events.filterMap Event.call?).length = n + 1 ∧
      (c.send r script s).events.filterMap Event.sleep? =
        (List.range n).map fun i => c.config.waitAfter (i + 1) := by
  obtain ⟨n, t, es, -, ht, hcalls, -, he⟩ := send_tried c r script h
  refine ⟨n, ?_, by rw [hcalls, List.length_replicate], ?_⟩
  · rw [he, conclude_filterMap _ _ _ _ _ _ fun _ => rfl, ht.beats]
    simp only [Nat.zero_add]
  · rw [he, conclude_filterMap _ _ _ _ _ _ fun _ => rfl, ht.sleeps]
    simp only [Nat.zero_add]

theorem filterMap_beat_left (es : List Event) :
    (es.filterMap Event.beat?).filterMap Sum.getLeft? = es.filterMap Event.call? := by
  rw [List.filterMap_filterMap]
  congr 1
  funext e
  cases e <;> rfl

theorem filterMap_beat_right (es : List Event) :
    (es.filterMap Event.beat?).filterMap Sum.getRight? = es.filterMap Event.sleep? := by
  rw [List.filterMap_filterMap]
  congr 1
  funext e
  cases e <;> rfl

/-- Each wait of a request comes right behind a call that is not the last, and has that call's
number. -/
theorem send_wait {before after : List Event} {w : Double}
    (he : (c.send r script s).events = before ++ .slept w :: after) :
    0 < (before.filterMap Event.call?).length ∧
    (before.filterMap Event.call?).length = (before.filterMap Event.sleep?).length + 1 ∧
    w = c.config.waitAfter (before.filterMap Event.call?).length ∧
    after.filterMap Event.call? ≠ [] := by
  by_cases h : s.breaker.isOpen = true
  · have hmem : Event.slept w ∈ (c.send r script s).events := by simp [he]
    rw [send_blocked h] at hmem
    simp at hmem
  · rw [Bool.not_eq_true] at h
    obtain ⟨n, hbeats, -, -⟩ := send_beats c r script h
    have hbeat : Event.beat? (.slept w) = some (.inr w) := rfl
    rw [he, List.filterMap_append, List.filterMap_cons_some hbeat] at hbeats
    have hsplit := rhythm_split hbeats.symm
    rw [filterMap_beat_left, filterMap_beat_right, filterMap_beat_left] at hsplit
    obtain ⟨hcalls, hw, hafter⟩ := hsplit
    refine ⟨by omega, hcalls, ?_, List.ne_nil_of_mem hafter⟩
    rw [hw, hcalls]

end Send

/-- The waits of a request follow the schedule of its configuration, one after each call but the last.
They never get shorter and keep within the bounds, and each stands between two calls. -/
theorem send_waits (c : Client) (r : HttpRequest) (script : Script) (s : State) {least most : ℚ}
    (hleast : c.config.retryMinWait.toRat? = some least)
    (hmost : c.config.retryMaxWait.toRat? = some most) :
    ((c.send r script s).events.filterMap Event.sleep?).map Double.toRat? =
      (List.range (((c.send r script s).events.filterMap Event.call?).length - 1)).map
        (fun i => some (backoff least most (i + 1))) ∧
    ((c.send r script s).events.filterMap Event.sleep?).Pairwise (fun w w' => w.le w' = true) ∧
    (∀ w ∈ (c.send r script s).events.filterMap Event.sleep?, ∃ q, w.toRat? = some q ∧
      max 0 least ≤ q ∧ q ≤ max (max 0 least) most ∧
      (0 ≤ least → least ≤ most → least ≤ q ∧ q ≤ most)) ∧
    ∀ before w after, (c.send r script s).events = before ++ .slept w :: after →
      0 < (before.filterMap Event.call?).length ∧
      w.toRat? = some (backoff least most (before.filterMap Event.call?).length) ∧
      (before.filterMap Event.call?).length = (before.filterMap Event.sleep?).length + 1 ∧
      after.filterMap Event.call? ≠ [] := by
  have hwait := Config.waitAfter_toRat? hleast hmost
  obtain ⟨n, hcalls, hsleeps⟩ : ∃ n,
      ((c.send r script s).events.filterMap Event.call?).length - 1 = n ∧
      (c.send r script s).events.filterMap Event.sleep? =
        (List.range n).map fun i => c.config.waitAfter (i + 1) := by
    by_cases h : s.breaker.isOpen = true
    · refine ⟨0, ?_, ?_⟩ <;> rw [send_blocked h] <;> rfl
    · rw [Bool.not_eq_true] at h
      obtain ⟨n, -, hcalls, hsleeps⟩ := send_beats c r script h
      exact ⟨n, by rw [hcalls, Nat.add_sub_cancel], hsleeps⟩
  refine ⟨?_, ?_, fun w hw => ?_, fun before w after he => ?_⟩
  · rw [hsleeps, hcalls, List.map_map]
    exact List.map_congr_left fun i _ => hwait (i + 1)
  · rw [hsleeps, List.pairwise_map]
    refine List.pairwise_lt_range.imp fun {i j} hij => ?_
    rw [Double.le_of_toRat? (hwait (i + 1)) (hwait (j + 1))]
    exact backoff_mono least most (by omega)
  · rw [hsleeps, List.mem_map] at hw
    obtain ⟨i, -, rfl⟩ := hw
    have hle := le_backoff least most (i + 1)
    have hge := backoff_le least most (i + 1)
    refine ⟨_, hwait (i + 1), hle, hge, fun h h' => ⟨(le_max_right _ _).trans hle, ?_⟩⟩
    rwa [max_eq_right h, max_eq_right h'] at hge
  · obtain ⟨hpos, hcount, hw, hafter⟩ := send_wait he
    exact ⟨hpos, hw ▸ hwait _, hcount, hafter⟩

namespace Sample

/-- It waits from one and a half seconds to three. -/
def patient : Client :=
  { client with config := { maxRetries := 4, retryMinWait := .finite 1.5, retryMaxWait := .finite 3 } }

end Sample

open Sample in
theorem send_waits_patient :
    patient.config.retryMinWait.toRat? = some (3 / 2) ∧
    patient.config.retryMaxWait.toRat? = some 3 ∧
    ((patient.send (get "/c") (always (.failure (.raised "ReadTimeout" "slow")))
      patient.start).events.filterMap Event.sleep?).map Double.toRat? =
        [some (3 / 2), some 2, some 3] := by
  have hleast : patient.config.retryMinWait.toRat? = some (3 / 2) := by decide +kernel
  have hmost : patient.config.retryMaxWait.toRat? = some 3 := rfl
  obtain ⟨hwaits, -⟩ := send_waits patient (get "/c")
    (always (.failure (.raised "ReadTimeout" "slow"))) patient.start hleast hmost
  refine ⟨hleast, hmost, hwaits.trans ?_⟩
  decide +kernel

end Courier.Service
