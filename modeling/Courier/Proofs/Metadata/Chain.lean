import Courier.Metadata.Chain
import Courier.Proofs.Metadata.Header

/-! Chains of bindings. A binding puts its own headers in place of all others and keeps the rest of a
request, so each one gives what it would give by itself on the first request. -/

namespace Courier

/-- Requests of one kind that differ in their headers at most. -/
structure HttpRequest.SameButHeaders {ε : Type} (q r : HttpRequest ε) : Prop where
  method : q.method = r.method
  endpoint : q.endpoint = r.endpoint
  params : q.params = r.params
  payload : q.payload = r.payload
  more : q.more = r.more

namespace Metadata

variable {ε : Type}

/-- The headers that a step writes, and what is logged of them. No request has a part in it. -/
def BindStep.written (step : BindStep) : Except BindFault (List Header × Log.Entry) :=
  match step.choice with
  | .error f => .error (.choice f)
  | .ok c =>
    match Binder.checkMetadata step.metadata with
    | .error f => .error (.argument f)
    | .ok es => .ok (c.binder.headers es, c.binder.boundEntry es.length)

/-- A request with what a step has written in place of its own headers. -/
def rewritten (r : HttpRequest ε) (w : List Header × Log.Entry) : HttpRequest ε × Log.Entry :=
  (r.replaceHeaders w.1, w.2)

section Steps

variable {step : BindStep} {r : HttpRequest ε} {hs : List Header} {entry : Log.Entry}

theorem written_eq_ok_iff :
    step.written = .ok (hs, entry) ↔ ∃ c es, step.choice = .ok c ∧ step.metadata = .ofTexts es ∧
      c.binder.headers es = hs ∧ c.binder.boundEntry es.length = entry := by
  simp only [BindStep.written, ← Binder.checkMetadata_eq_ok_iff]
  cases hc : step.choice with
  | error f => simp
  | ok c =>
    cases hm : Binder.checkMetadata step.metadata with
    | error f => simp
    | ok es => simp

theorem run_some (step : BindStep) (r : HttpRequest ε) :
    step.run (some r) = step.written.map (rewritten r) := by
  unfold BindStep.run BindStep.written
  cases hc : step.choice with
  | error f => rfl
  | ok c =>
    cases hm : Binder.checkMetadata step.metadata with
    | error f => simp [Binder.bind, hm, Except.map]
    | ok es => simp [Binder.bind, hm, Except.map, rewritten]

theorem rewritten_replaceHeaders (r : HttpRequest ε) (hs : List Header) :
    rewritten (r.replaceHeaders hs) = rewritten r := rfl

theorem rewritten_same (r : HttpRequest ε) (w : List Header × Log.Entry) :
    (rewritten r w).1.SameButHeaders r := ⟨rfl, rfl, rfl, rfl, rfl⟩

end Steps

section Chains

variable {r : HttpRequest ε}

theorem runChain_eq_map (hs : List Header) (steps : List BindStep) :
    runChain (some r) (some (r.replaceHeaders hs)) steps =
      steps.map fun step => step.written.map (rewritten r) := by
  -- A chain has always come to the first request with some headers, which the next binding drops.
  induction steps generalizing hs with
  | nil => rfl
  | cons step steps ih =>
    have hstep : step.run (if step.fromFirst then some r else some (r.replaceHeaders hs)) =
        step.written.map (rewritten r) := by
      by_cases hf : step.fromFirst = true
      · rw [if_pos hf, run_some]
      · rw [if_neg hf, run_some, rewritten_replaceHeaders]
    rw [runChain, hstep, List.map_cons]
    cases hw : step.written with
    | error f => exact congrArg _ (ih hs)
    | ok w => exact congrArg _ (ih w.1)

theorem runChain_first (r : HttpRequest ε) (steps : List BindStep) :
    runChain (some r) (some r) steps = steps.map fun step => step.written.map (rewritten r) :=
  runChain_eq_map r.headers steps

theorem isOk_map_rewritten (x : Except BindFault (List Header × Log.Entry)) :
    (x.map (rewritten r)).isOk = x.isOk := by
  cases x <;> rfl

end Chains

/-- Every binding in a chain gives what it gives by itself: on success the first request, of its kind,
with the headers of this binding alone, and otherwise neither a request nor an entry of the log. Those
that fail may as well be left out, and what follows later changes no result. -/
theorem chain_binds (r : HttpRequest ε) (steps more : List BindStep) :
    let results := runChain (some r) (some r) steps
    results = steps.map (fun step => step.written.map (rewritten r)) ∧
    (∀ q entry, .ok (q, entry) ∈ results → q.SameButHeaders r) ∧
    (∀ (step : BindStep) (hs : List Header) (entry : Log.Entry), step.written = .ok (hs, entry) ↔
      ∃ c es, step.choice = .ok c ∧ step.metadata = .ofTexts es ∧ c.binder.headers es = hs ∧
        c.binder.boundEntry es.length = entry) ∧
    results.filter (·.isOk) = runChain (some r) (some r) (steps.filter (·.written.isOk)) ∧
    runChain (some r) (some r) (steps ++ more) = results ++ runChain (some r) (some r) more := by
  intro results
  have hresults : results = _ := runChain_first r steps
  refine ⟨hresults, fun q entry hq => ?_, fun _ _ _ => written_eq_ok_iff, ?_, ?_⟩
  · rw [hresults] at hq
    obtain ⟨step, -, hstep⟩ := List.mem_map.mp hq
    cases hw : step.written with
    | error f => simp [hw, Except.map] at hstep
    | ok w =>
      have he : rewritten r w = (q, entry) := by simpa [hw, Except.map] using hstep
      have hsame := rewritten_same r w
      rwa [he] at hsame
  · rw [hresults, runChain_first, List.filter_map]
    simp only [Function.comp_def, isOk_map_rewritten]
  · rw [hresults, runChain_first, runChain_first, List.map_append]

end Metadata

end Courier
