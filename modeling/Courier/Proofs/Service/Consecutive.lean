import Courier.Proofs.Service.Opening
import Mathlib.Data.List.DropRight

/-! Sessions of requests alone, and the failures among them. The breaker counts all of them since the
start. An answer in between does not make it count anew. -/

namespace Courier.Service

/-- A request, and what the transport will make of its calls. -/
abbrev Sending := HttpRequest × Script

namespace Client

/-- The last attempt fails in the transport. -/
def Fails (c : Client) (x : Sending) : Prop :=
  ∃ k, c.Takes x.2 k ∧
    (x.2 (k - 1)).outcome.TransportFailure

/-- The last attempt brings a response that is not an error. -/
def Answers (c : Client) (x : Sending) : Prop :=
  ∃ k, c.Takes x.2 k ∧
    ∃ a, (x.2 (k - 1)).outcome = .response a ∧ a.status < 400

/-- How the attempts end, which is the same in every state. -/
def lastTry (c : Client) (x : Sending) : Except ClientError Response :=
  (c.attempts x.1.endpoint (c.callFor none x.1) x.2 (c.config.attempts - 1) 0 c.start).result

def afterSending (c : Client) (xs : List Sending) : State :=
  xs.foldl (fun s x => (c.send x.1 x.2 s).state) c.start

end Client

section Ends

variable {c : Client} {x : Sending} {k : Nat}

theorem fails_iff (hk : c.Takes x.2 k) :
    c.Fails x ↔ (x.2 (k - 1)).outcome.TransportFailure := by
  constructor
  · rintro ⟨m, hm, h⟩
    rwa [hk.unique hm]
  · exact fun h => ⟨k, hk, h⟩

theorem answers_iff (hk : c.Takes x.2 k) :
    c.Answers x ↔ ∃ a, (x.2 (k - 1)).outcome = .response a ∧ a.status < 400 := by
  constructor
  · rintro ⟨m, hm, h⟩
    rwa [hk.unique hm]
  · exact fun h => ⟨k, hk, h⟩

theorem lastTry_eq (c : Client) (x : Sending) :
    ∃ k, c.Takes x.2 k ∧
      c.lastTry x = (judge (x.2 (k - 1))).final := by
  obtain ⟨n, hn, ht, hr, hl⟩ := attempts_tried c x.1.endpoint (c.callFor none x.1) x.2
    (c.config.attempts - 1) 0 c.start
  rw [Nat.zero_add] at hr hl
  exact ⟨n + 1, ht.takes hn hl, hr⟩

theorem recordable_lastTry_iff : Client.recordable (c.lastTry x) = true ↔ c.Fails x := by
  obtain ⟨k, hk, he⟩ := lastTry_eq c x
  rw [he, (judged _).recordable_iff, fails_iff hk]

theorem lastTry_eq_ok_iff : (∃ a, c.lastTry x = .ok a) ↔ c.Answers x := by
  obtain ⟨k, hk, he⟩ := lastTry_eq c x
  rw [he, (judged _).final_eq_ok_iff, answers_iff hk]

instance : Decidable (c.Fails x) := decidable_of_iff _ recordable_lastTry_iff

instance : Decidable (c.Answers x) :=
  match h : c.lastTry x with
  | .ok a => isTrue (lastTry_eq_ok_iff.mp ⟨a, h⟩)
  | .error e => isFalse fun ha => by
    obtain ⟨a, he⟩ := lastTry_eq_ok_iff.mpr ha
    rw [h] at he
    cases he

end Ends

section Steps

variable {c : Client} {x : Sending} {s : State}

/-- Where a request was let through, its end tells whether it failed in the transport and whether it
was answered, supposing that its time can be logged. -/
theorem send_tells (h : s.breaker.isOpen = false)
    (hms : ∃ ms, Client.milliseconds ((c.send x.1 x.2 s).state.clock.sub s.clock) = .ok ms) :
    (ReportsTransport (c.send x.1 x.2 s).result ↔ c.Fails x) ∧
    ((∃ a, (c.send x.1 x.2 s).result = .ok a) ↔ c.Answers x) := by
  constructor
  · obtain ⟨k, hk, -, -, hreports⟩ := send_breaker c x.1 x.2 h
    rw [fails_iff hk]
    exact hreports hms
  · obtain ⟨n, t, es, hk, -, -, -, he⟩ := send_tried c x.1 x.2 h
    rw [he] at hms ⊢
    obtain ⟨ms, hms⟩ := hms
    rw [(conclude_endsAs _ _ _ _ _).kept ms hms, present_eq_ok_iff, (judged _).final_eq_ok_iff,
      answers_iff hk, Nat.add_sub_cancel]

theorem isOpen_of_send (h : (c.send x.1 x.2 s).state.breaker.isOpen = false) :
    s.breaker.isOpen = false := by
  by_contra ho
  have hs : s.breaker.isOpen = true := by simpa using ho
  have hopen := isOpen_performed (.sent x.1 : Performed c x.2 s _ _) hs
  rw [h] at hopen
  cases hopen

theorem send_counts (h : s.breaker.isOpen = false) (hg : s.breaker.gate ≠ .halfOpen) :
    (c.send x.1 x.2 s).state.breaker.failures =
      s.breaker.failures + if c.Fails x then 1 else 0 := by
  obtain ⟨k, hk, hyes, hno, -⟩ := send_breaker c x.1 x.2 h
  rw [← fails_iff hk] at hyes hno
  by_cases hf : c.Fails x
  · rw [if_pos hf, hyes hf]
    exact (Breaker.recorded hg _).failures_of_closed h
  · rw [if_neg hf, hno hf, Nat.add_zero]

theorem send_opens (h : s.breaker.isOpen = false) (hg : s.breaker.gate ≠ .halfOpen)
    (ho : (c.send x.1 x.2 s).state.breaker.isOpen = true) :
    c.Fails x ∧ s.breaker.failMax ≤ (s.breaker.failures + 1 : Nat) := by
  obtain ⟨k, hk, hyes, hno, -⟩ := send_breaker c x.1 x.2 h
  rw [← fails_iff hk] at hyes hno
  have hf : c.Fails x := by
    by_contra hf
    rw [hno hf, h] at ho
    cases ho
  rw [hyes hf] at ho
  exact ⟨hf, (Breaker.recorded hg _).failMax_le (Breaker.gate_eq_closed hg h) ho⟩

end Steps

section Runs

variable {c : Client} {xs : List Sending} {x : Sending}

theorem afterSending_concat (c : Client) (xs : List Sending) (x : Sending) :
    c.afterSending (xs ++ [x]) = (c.send x.1 x.2 (c.afterSending xs)).state :=
  List.foldl_concat ..

theorem afterSending_steady (c : Client) (xs : List Sending) :
    (c.afterSending xs).breaker.gate ≠ .halfOpen ∧
      (c.afterSending xs).breaker.failMax = c.config.breakerFailMax := by
  induction xs using List.reverseRecOn with
  | nil => exact ⟨nofun, rfl⟩
  | append_singleton xs x ih =>
    obtain ⟨hg, hm⟩ := ih
    have hp : Performed c x.2 (c.afterSending xs) _ _ := .sent x.1
    rw [afterSending_concat]
    exact ⟨gate_ne_performed hp hg, (failMax_performed hp hg).trans hm⟩

/-- As long as the breaker is closed it has counted every failure since the start. -/
theorem afterSending_failures (h : (c.afterSending xs).breaker.isOpen = false) :
    (c.afterSending xs).breaker.failures = xs.countP fun x => c.Fails x := by
  induction xs using List.reverseRecOn with
  | nil => rfl
  | append_singleton xs x ih =>
    rw [afterSending_concat] at h ⊢
    have hclosed := isOpen_of_send h
    rw [send_counts hclosed (afterSending_steady c xs).1, ih hclosed, List.countP_append,
      List.countP_singleton]
    simp

theorem afterSending_balanced
    (h : ∀ ys, ys <+: xs → (later? 0 (c.afterSending ys).clock).isSome) :
    (c.afterSending xs).breaker.Balanced := by
  induction xs using List.reverseRecOn with
  | nil => exact balanced_start c
  | append_singleton xs x ih =>
    have hlast := h _ (List.prefix_refl _)
    have hrest := ih fun ys hys => h ys (hys.trans (List.prefix_append xs [x]))
    have hp : Performed c x.2 (c.afterSending xs) _ _ := .sent x.1
    rw [afterSending_concat] at hlast ⊢
    exact balanced_performed hp hrest hlast

end Runs

/-- A request that opens the breaker fails, and with all failures since the start the limit is
reached. If none of them came before the last answer, it is reached by those since that answer, and
at instants of the calendar only then. What fails and what is answered shows in how a request ends. -/
theorem opening_counts_all (c : Client) (xs : List Sending) (x : Sending)
    (hclosed : (c.afterSending xs).breaker.isOpen = false)
    (hopen : (c.afterSending (xs ++ [x])).breaker.isOpen = true) :
    let before := (xs ++ [x]).rdropWhile fun y => ¬ c.Answers y
    let since := (xs ++ [x]).rtakeWhile fun y => ¬ c.Answers y
    c.Fails x ∧
    max 1 c.config.breakerFailMax ≤ ((xs ++ [x]).countP fun y => c.Fails y : Nat) ∧
    ((∀ y ∈ before, ¬ c.Fails y) →
      max 1 c.config.breakerFailMax ≤ (since.countP fun y => c.Fails y : Nat)) ∧
    ((∀ ys, ys <+: xs → (later? 0 (c.afterSending ys).clock).isSome) →
      max 1 c.config.breakerFailMax ≤ (since.countP fun y => c.Fails y : Nat) →
      ∀ y ∈ before, ¬ c.Fails y) ∧
    ∀ (y : Sending) (s : State), s.breaker.isOpen = false →
      (∃ ms, Client.milliseconds ((c.send y.1 y.2 s).state.clock.sub s.clock) = .ok ms) →
      (ReportsTransport (c.send y.1 y.2 s).result ↔ c.Fails y) ∧
      ((∃ a, (c.send y.1 y.2 s).result = .ok a) ↔ c.Answers y) := by
  intro before since
  obtain ⟨hg, hm⟩ := afterSending_steady c xs
  have hcount := afterSending_failures hclosed
  rw [afterSending_concat] at hopen
  obtain ⟨hfails, hlimit⟩ := send_opens hclosed hg hopen
  have hall : (xs ++ [x]).countP (fun y => c.Fails y) =
      (c.afterSending xs).breaker.failures + 1 := by
    rw [hcount, List.countP_append, List.countP_singleton]
    simp [hfails]
  have hparts : (xs ++ [x]).countP (fun y => c.Fails y) =
      before.countP (fun y => c.Fails y) + since.countP (fun y => c.Fails y) := by
    rw [← List.countP_append, List.rdropWhile_append_rtakeWhile]
  rw [hm] at hlimit
  refine ⟨hfails, by omega, fun hnone => ?_, fun hdated hsince => ?_,
    fun y s hs hms => send_tells hs hms⟩
  · have hzero : before.countP (fun y => c.Fails y) = 0 := by
      apply List.countP_eq_zero.mpr
      simpa using hnone
    omega
  · have hbelow : ((c.afterSending xs).breaker.failures : Int) < max 1 c.config.breakerFailMax := by
      by_contra hle
      have hb := (afterSending_balanced hdated).isOpen_iff
      rw [hm, hclosed] at hb
      exact absurd (hb.mpr (by omega)) (by decide)
    have hzero : before.countP (fun y => c.Fails y) = 0 := by omega
    simpa using List.countP_eq_zero.mp hzero

namespace Sample

def slow : Sending := (get "/c", timeout)

def fine : Sending := (get "/c", always (.response { status := 200 }))

end Sample

open Sample in
theorem opening_counts_all_of_two :
    ((guarded 2).afterSending [fine, slow]).breaker.isOpen = false ∧
    ((guarded 2).afterSending [fine, slow, slow]).breaker.isOpen = true ∧
    (2 : Int) ≤ ([slow, slow].countP fun y => (guarded 2).Fails y : Nat) := by
  have hclosed : ((guarded 2).afterSending [fine, slow]).breaker.isOpen = false := by
    decide +kernel
  have hopen : ((guarded 2).afterSending ([fine, slow] ++ [slow])).breaker.isOpen = true := by
    decide +kernel
  have hfine : (guarded 2).Answers fine := by decide +kernel
  have hslow : ¬ (guarded 2).Answers slow := by decide +kernel
  have hfails : ¬ (guarded 2).Fails fine := by decide +kernel
  obtain ⟨-, -, hsince, -⟩ := opening_counts_all (guarded 2) [fine, slow] slow hclosed hopen
  simp only [List.rdropWhile, List.rtakeWhile, List.cons_append, List.nil_append, List.reverse_cons,
    List.reverse_nil, List.dropWhile, List.takeWhile, hfine, hslow, not_true, not_false_eq_true,
    decide_true, decide_false, List.forall_mem_singleton] at hsince
  exact ⟨hclosed, hopen, hsince hfails⟩

open Sample in
/-- An answer between two failures does not keep them from opening a breaker that allows for one. -/
theorem opening_after_answer :
    ((guarded 2).send fine.1 fine.2 ((guarded 2).afterSending [slow])).result =
      .ok { status := 200 } ∧
    ((guarded 2).afterSending [slow, fine]).breaker.isOpen = false ∧
    ((guarded 2).afterSending [slow, fine, slow]).breaker.isOpen = true ∧
    ([slow, fine, slow].rtakeWhile fun y => ¬ (guarded 2).Answers y).length = 1 ∧
    max 1 (guarded 2).config.breakerFailMax = 2 := by
  refine ⟨?_, ?_, ?_, ?_, ?_⟩ <;> decide +kernel

end Courier.Service
