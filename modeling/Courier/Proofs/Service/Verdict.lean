import Courier.Proofs.Service.FailureTree
import Courier.Service.Client

/-! What the outcome of an attempt decides: whether it is tried again, how a request ends with it,
and whether the breaker hears of it. -/

namespace Courier.Service

def Response.ServerFault (r : Response) : Prop := 500 ≤ r.status ∧ r.status < 600

namespace Outcome

/-- An outcome that is worth another attempt. -/
def Retryable : Outcome → Prop
  | .response r => r.ServerFault
  | .failure f => f.kind.Retryable

def TransportFailure : Outcome → Prop
  | .response r => r.ServerFault
  | .failure f => f.kind.Descends .httpError

/-- The class of failure that an outcome worth another attempt counts as. -/
def cause : Outcome → String
  | .response _ => "HTTPStatusError"
  | .failure f => f.name

end Outcome

/-- How a request ends with a verdict after which nothing is tried. -/
def Verdict.final : Verdict → Except ClientError Response
  | .accept r => .ok r
  | .retry f => .error (.failed f)
  | .stop e => .error e

/-- How a request to a URL ends with a reply. A refusal is reported with its detail and its text;
where the reader fails at one of them, the request fails as the reader does. -/
def Settles (url : String) (p : Reply) (e : Except ClientError Response) : Prop :=
  match p.outcome with
  | .response r =>
    (r.status < 400 → e = .ok r) ∧
    (r.ServerFault → e = .error (.failed r.serverFailure)) ∧
    (400 ≤ r.status → ¬ r.ServerFault →
      (∀ d t, p.reader.errorDetail r = .ok d → p.reader.text r = .ok t →
        e = .error (.response r.status d t)) ∧
      (∀ x, p.reader.errorDetail r = .error x → e = .error (.failed (.ofTrouble x))) ∧
      ∀ d x, p.reader.errorDetail r = .ok d → p.reader.text r = .error x →
        e = .error (.failed (.ofTrouble x)))
  | .failure f =>
    (f.kind.Descends .timeoutException → e = .error (.timeout url)) ∧
    (¬ f.kind.Descends .timeoutException → e = .error (.failed f))

/-- The status label of a request is that of its answer, or of the error that reports one. -/
def LabelledBy : Except ClientError Response → String → Prop
  | .ok r, label => label = toString r.status
  | .error (.response status _ _), label => label = toString status
  | .error (.failed f), label =>
    (∀ n, f.kind = .httpStatusError n → label = toString n) ∧
    ((∀ n, f.kind ≠ .httpStatusError n) → label = "error")
  | .error _, label => label = "error"

/-- The verdicts on outcomes, each with its reason. -/
inductive Judged (reader : Reader) : Outcome → Verdict → Prop
  | accepted {r : Response} (h : r.status < 400) : Judged reader (.response r) (.accept r)
  | serverFault {r : Response} (h : r.ServerFault) :
    Judged reader (.response r) (.retry r.serverFailure)
  | refused {r : Response} {d t : String} (h : 400 ≤ r.status) (hs : ¬ r.ServerFault)
      (hd : reader.errorDetail r = .ok d) (ht : reader.text r = .ok t) :
    Judged reader (.response r) (.stop (.response r.status d t))
  | unexplained {r : Response} {x : Trouble} (h : 400 ≤ r.status) (hs : ¬ r.ServerFault)
      (hd : reader.errorDetail r = .error x) :
    Judged reader (.response r) (.stop (.failed (.ofTrouble x)))
  | unread {r : Response} {d : String} {x : Trouble} (h : 400 ≤ r.status) (hs : ¬ r.ServerFault)
      (hd : reader.errorDetail r = .ok d) (ht : reader.text r = .error x) :
    Judged reader (.response r) (.stop (.failed (.ofTrouble x)))
  | again {f : Failure} (h : f.kind.Retryable) : Judged reader (.failure f) (.retry f)
  | given {f : Failure} (h : ¬ f.kind.Retryable) :
    Judged reader (.failure f) (.stop (.failed f))

theorem judged_response (reader : Reader) (r : Response) :
    Judged reader (.response r) (judgeResponse reader r) := by
  by_cases hs : 500 ≤ r.status ∧ r.status < 600
  · simpa [judgeResponse, hs] using Judged.serverFault hs
  · by_cases h4 : 400 ≤ r.status
    · cases hd : reader.errorDetail r with
      | error x => simpa [judgeResponse, hs, h4, hd] using Judged.unexplained h4 hs hd
      | ok d =>
        cases ht : reader.text r with
        | error x => simpa [judgeResponse, hs, h4, hd, ht] using Judged.unread h4 hs hd ht
        | ok t => simpa [judgeResponse, hs, h4, hd, ht] using Judged.refused h4 hs hd ht
    · simpa [judgeResponse, hs, h4] using Judged.accepted (by omega)

theorem judged (p : Reply) : Judged p.reader p.outcome (judge p) := by
  obtain ⟨delay, o, reader⟩ := p
  cases o with
  | response r => exact judged_response reader r
  | failure f =>
    by_cases h : f.kind.retryable = true
    · simpa [judge, h] using Judged.again (FailureClass.retryable_iff.mp h)
    · simpa [judge, h] using Judged.given fun hr => h (FailureClass.retryable_iff.mpr hr)

namespace Judged

variable {url : String} {reader : Reader} {o : Outcome} {v : Verdict}

theorem retry_iff (h : Judged reader o v) : (∃ f, v = .retry f) ↔ o.Retryable := by
  cases h with
  | accepted h => exact ⟨by simp, fun hs => by have := hs.1; omega⟩
  | serverFault h => exact ⟨fun _ => h, fun _ => ⟨_, rfl⟩⟩
  | refused _ hs | unexplained _ hs | unread _ hs => exact ⟨by simp, fun h => (hs h).elim⟩
  | again h => exact ⟨fun _ => h, fun _ => ⟨_, rfl⟩⟩
  | given h => exact ⟨by simp, fun hr => (h hr).elim⟩

theorem name_eq_cause {f : Failure} (h : Judged reader o (.retry f)) : f.name = o.cause := by
  cases h with
  | serverFault => rfl
  | again => rfl

/-- A refusal settles a request by what the reader makes of its detail and its text. -/
theorem settles_refusal {p : Reply} {r : Response} {e : Except ClientError Response}
    (ho : p.outcome = .response r) (h : 400 ≤ r.status) (hs : ¬ r.ServerFault)
    (hread : ∀ d t, p.reader.errorDetail r = .ok d → p.reader.text r = .ok t →
      e = .error (.response r.status d t))
    (hdetail : ∀ x, p.reader.errorDetail r = .error x → e = .error (.failed (.ofTrouble x)))
    (htext : ∀ d x, p.reader.errorDetail r = .ok d → p.reader.text r = .error x →
      e = .error (.failed (.ofTrouble x))) : Settles url p e := by
  rw [Settles, ho]
  exact ⟨fun h4 => by omega, fun hf => (hs hf).elim, fun _ _ => ⟨hread, hdetail, htext⟩⟩

theorem settles {p : Reply} (h : Judged p.reader p.outcome v) :
    Settles url p (Client.present url v.final) := by
  have hfailed {f : Failure} (ho : p.outcome = .failure f) :
      Settles url p (Client.present url (.error (.failed f))) := by
    rw [Settles, ho]
    constructor <;> intro hd <;>
      simp [Client.present, FailureClass.isA_iff_descends, hd]
  generalize ho : p.outcome = o at h
  cases h with
  | @accepted r h =>
    rw [Settles, ho]
    refine ⟨fun _ => rfl, fun hs => ?_, fun h4 => by omega⟩
    have := hs.1
    omega
  | @serverFault r h =>
    rw [Settles, ho]
    refine ⟨fun h4 => ?_, fun _ => rfl, fun _ hs => (hs h).elim⟩
    have := h.1
    omega
  | refused h hs hd ht =>
    refine settles_refusal ho h hs (fun d' t' hd' ht' => ?_)
      (fun x hx => by cases hd.symm.trans hx) (fun d' x _ hx => by cases ht.symm.trans hx)
    cases hd.symm.trans hd'
    cases ht.symm.trans ht'
    rfl
  | unexplained h hs hd =>
    refine settles_refusal ho h hs (fun d' t' hd' _ => by cases hd.symm.trans hd') (fun x hx => ?_)
      (fun d' x hd' _ => by cases hd.symm.trans hd')
    cases hd.symm.trans hx
    rfl
  | unread h hs hd ht =>
    refine settles_refusal ho h hs (fun d' t' _ ht' => by cases ht.symm.trans ht')
      (fun x hx => by cases hd.symm.trans hx) (fun d' x _ hx => ?_)
    cases ht.symm.trans hx
    rfl
  | again | given => exact hfailed ho

theorem recordable_iff (h : Judged reader o v) :
    Client.recordable v.final = true ↔ o.TransportFailure := by
  have hf (x : Trouble) : ¬ Client.recordable (.error (.failed (.ofTrouble x))) = true := by
    simp only [Bool.not_eq_true]
    rfl
  cases h with
  | accepted h => exact ⟨fun hr => (nomatch hr), fun hs => by have := hs.1; omega⟩
  | serverFault h => exact ⟨fun _ => h, fun _ => rfl⟩
  | refused _ hs => exact ⟨fun hr => (nomatch hr), fun h => (hs h).elim⟩
  | unexplained _ hs | unread _ hs => exact ⟨fun hr => (hf _ hr).elim, fun h => (hs h).elim⟩
  | again => exact FailureClass.isA_iff_descends
  | given => exact FailureClass.isA_iff_descends

theorem final_eq_ok_iff (h : Judged reader o v) :
    (∃ a, v.final = .ok a) ↔ ∃ a, o = .response a ∧ a.status < 400 := by
  cases h with
  | @accepted r h => exact ⟨fun _ => ⟨r, rfl, h⟩, fun _ => ⟨r, rfl⟩⟩
  | serverFault h =>
    refine iff_of_false (fun ⟨_, he⟩ => nomatch he) ?_
    rintro ⟨a, he, ha⟩
    cases he
    have := h.1
    omega
  | refused h | unexplained h | unread h =>
    refine iff_of_false (fun ⟨_, he⟩ => nomatch he) ?_
    rintro ⟨a, he, ha⟩
    cases he
    omega
  | again | given => exact iff_of_false (fun ⟨_, he⟩ => nomatch he) (fun ⟨_, he, _⟩ => nomatch he)

end Judged

theorem present_eq_ok_iff {url : String} {e : Except ClientError Response} :
    (∃ a, Client.present url e = .ok a) ↔ ∃ a, e = .ok a := by
  cases e with
  | ok a => rfl
  | error e =>
    cases e with
    | failed f => by_cases h : f.kind.isA .timeoutException = true <;> simp [Client.present, h]
    | unavailable | timeout | response => simp [Client.present]

theorem judge_eq_retry_iff {p : Reply} : (∃ f, judge p = .retry f) ↔ p.outcome.Retryable :=
  (judged p).retry_iff

theorem labelledBy_statusLabel (url : String) (e : Except ClientError Response) :
    LabelledBy (Client.present url e) (Client.statusLabel e) := by
  cases e with
  | ok r => rfl
  | error e =>
    cases e with
    | unavailable => rfl
    | timeout => rfl
    | response => rfl
    | failed f =>
      obtain ⟨kind, message⟩ := f
      by_cases h : kind.isA .timeoutException = true
      · have hs : kind.status? = none := by
          cases kind with
          | httpStatusError n => exact nomatch h
          | _ => rfl
        simp [Client.present, Client.statusLabel, LabelledBy, h, hs]
      · simp only [Client.present, Client.statusLabel, LabelledBy, h]
        refine ⟨fun n hn => ?_, fun hn => ?_⟩
        · subst hn
          rfl
        · cases kind with
          | httpStatusError n => exact (hn n rfl).elim
          | _ => rfl

end Courier.Service
