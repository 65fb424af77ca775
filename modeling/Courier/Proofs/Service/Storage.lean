import Courier.Proofs.Metadata.Header
import Courier.Proofs.Service.Sending
import Courier.Service.Storage
import Mathlib.Data.List.DropRight

/-! Operations on metadata from end to end: what each of them sends, and how what becomes of the
sending is answered. -/

namespace Courier.Service

open Metadata (Mode Offered Binder)

/-- The header for a correlation id, if there is one that is not empty. -/
def correlationHeaders (correlation : Option String) : List Header :=
  match correlation with
  | some id => if id = "" then [] else [("X-Correlation-ID", id)]
  | none => []

/-- The request that carries entries to a place. -/
def Place.request (p : Place) (mode : Mode) (entries : List (String × String)) : HttpRequest where
  method := "POST"
  endpoint := p.endpoint
  headers := entries.map (p.scope.headerFor mode)
  more := ()

section Call

theorem headersFor_eq (c : Client) (correlation : Option String) (own : List Header) :
    c.headersFor correlation own = c.defaultHeaders ++ own ++ correlationHeaders correlation := by
  cases correlation with
  | none => rfl
  | some id =>
    by_cases h : id = ""
    · simp [Client.headersFor, correlationHeaders, h]
    · simp [Client.headersFor, correlationHeaders, h]

theorem callFor_storage (baseUrl : String) (config : Config) (correlation : Option String)
    (p : Place) (mode : Mode) (entries : List (String × String)) :
    (Client.storage baseUrl config).callFor correlation (p.request mode entries) =
      { method := "POST"
        url := (Client.storage baseUrl config).baseUrl ++ p.endpoint
        headers := entries.map (p.scope.headerFor mode) ++ correlationHeaders correlation
        params := none
        payload := none } := by
  have hheaders := headersFor_eq (Client.storage baseUrl config) correlation
    (p.request mode entries).headers
  rw [Client.callFor, hheaders]
  rfl

theorem stripRightBy_append_replicate (c : Char) (s : List Char) :
    ∃ n, s = stripRightBy (· == c) s ++ List.replicate n c := by
  have hend : s.rtakeWhile (· == c) = List.replicate (s.rtakeWhile (· == c)).length c := by
    apply List.eq_replicate_iff.mpr
    refine ⟨rfl, fun d hd => ?_⟩
    have hd' := List.mem_rtakeWhile_imp hd
    exact beq_iff_eq.mp hd'
  refine ⟨(s.rtakeWhile (· == c)).length, ?_⟩
  rw [← hend]
  exact List.rdropWhile_append_rtakeWhile.symm

theorem getLast?_stripRightBy (c : Char) (s : List Char) :
    (stripRightBy (· == c) s).getLast? ≠ some c := by
  intro h
  have hne : stripRightBy (· == c) s ≠ [] := by
    intro he
    simp [he] at h
  rw [List.getLast?_eq_some_getLast hne, Option.some.injEq] at h
  exact List.rdropWhile_last_not (· == c) s hne (beq_iff_eq.mpr h)

theorem baseUrl_make (baseUrl target : String) (config : Config) (headers : List Header) :
    ∃ n, baseUrl.toList =
        (Client.make baseUrl target config headers).baseUrl.toList ++ List.replicate n '/' ∧
      (Client.make baseUrl target config headers).baseUrl.toList.getLast? ≠ some '/' := by
  have hbase : (Client.make baseUrl target config headers).baseUrl.toList =
      stripRightBy (· == '/') baseUrl.toList := String.toList_ofList
  rw [hbase]
  obtain ⟨n, hn⟩ := stripRightBy_append_replicate '/' baseUrl.toList
  exact ⟨n, hn, getLast?_stripRightBy '/' baseUrl.toList⟩

end Call

section Operation

variable (c : Client) (p : Place) (mode : Mode) (script : Script) (s : State)

theorem postMetadata_texts (entries : List (String × String)) :
    c.postMetadata p mode (.ofTexts entries) script s =
      ⟨Client.existence (c.send (p.request mode entries) script s).result,
        (c.send (p.request mode entries) script s).state,
        .logged ((Binder.ofScope p.scope mode).boundEntry entries.length) ::
          (c.send (p.request mode entries) script s).events⟩ := by
  have hheaders : (Binder.ofScope p.scope mode).headers entries =
      entries.map (p.scope.headerFor mode) := by
    apply List.map_congr_left
    intro entry _
    exact Binder.header_ofScope p.scope mode entry
  have hbind : (Binder.ofScope p.scope mode).bind (some (Client.metadataRequest p))
      (.ofTexts entries) = .ok (p.request mode entries,
        (Binder.ofScope p.scope mode).boundEntry entries.length) := by
    rw [Binder.bind_texts, hheaders]
    rfl
  rw [Client.postMetadata, hbind]

theorem postMetadata_refused {m : Offered} (h : ∀ entries, m ≠ .ofTexts entries) :
    ∃ f, c.postMetadata p mode m script s = ⟨.error (.argument f), s, []⟩ := by
  obtain ⟨f, hf⟩ := Binder.checkMetadata_eq_error h
  refine ⟨f, ?_⟩
  simp [Client.postMetadata, Binder.bind, hf, Except.map]

theorem send_url (r : HttpRequest) :
    ∀ call ∈ (c.send r script s).events.filterMap Event.call?,
      call.url = c.baseUrl ++ r.endpoint := by
  intro call hcall
  cases h : s.breaker.isOpen with
  | true =>
    rw [send_blocked h] at hcall
    cases hcall
  | false =>
    obtain ⟨n, -, -, -, -, hcalls, -⟩ := send_tried c r script h
    rw [hcalls] at hcall
    rw [List.eq_of_mem_replicate hcall]
    rfl

theorem postMetadata_url (m : Offered) :
    ∀ call ∈ (c.postMetadata p mode m script s).events.filterMap Event.call?,
      call.url = c.baseUrl ++ p.endpoint := by
  intro call hcall
  by_cases hm : ∃ entries, m = .ofTexts entries
  · obtain ⟨entries, rfl⟩ := hm
    rw [postMetadata_texts] at hcall
    exact send_url c script s (p.request mode entries) call hcall
  · obtain ⟨f, hf⟩ := postMetadata_refused c p mode script s fun entries he => hm ⟨entries, he⟩
    rw [hf] at hcall
    cases hcall

end Operation

section Existence

variable {e : Except ClientError Response}

/-- An answer, a refusal for want of the place, or another error. -/
theorem existence_cases (e : Except ClientError Response) :
    (∃ a, e = .ok a ∧ Client.existence e = .ok true) ∨
    (∃ d b, e = .error (.response 404 d b) ∧ Client.existence e = .ok false) ∨
    (∃ y, e = .error y ∧ (∀ d b, y ≠ .response 404 d b) ∧
      Client.existence e = .error (.client y)) := by
  cases e with
  | ok a => exact .inl ⟨a, rfl, rfl⟩
  | error y =>
    cases y with
    | response status d b =>
      by_cases h : status = 404
      · subst h
        exact .inr (.inl ⟨d, b, rfl, rfl⟩)
      · refine .inr (.inr ⟨_, rfl, ?_, if_neg h⟩)
        intro d' b' he
        cases he
        exact h rfl
    | unavailable | timeout | failed => exact .inr (.inr ⟨_, rfl, nofun, rfl⟩)

theorem existence_eq_true_iff : Client.existence e = .ok true ↔ ∃ a, e = .ok a := by
  rcases existence_cases e with ⟨a, rfl, he⟩ | ⟨d, b, rfl, he⟩ | ⟨y, rfl, -, he⟩ <;> simp [he]

theorem existence_eq_false_iff :
    Client.existence e = .ok false ↔ ∃ d b, e = .error (.response 404 d b) := by
  rcases existence_cases e with ⟨a, rfl, he⟩ | ⟨d, b, rfl, he⟩ | ⟨y, rfl, hy, he⟩
  · simp [he]
  · simp [he]
  · simpa [he] using hy

theorem existence_eq_error_iff {x : StorageError} :
    Client.existence e = .error x ↔
      ∃ y, x = .client y ∧ e = .error y ∧ ∀ d b, y ≠ .response 404 d b := by
  rcases existence_cases e with ⟨a, rfl, he⟩ | ⟨d, b, rfl, he⟩ | ⟨y, rfl, hy, he⟩
  · simp [he]
  · simp [he]
  · rw [he, Except.error.injEq]
    constructor
    · rintro rfl
      exact ⟨y, rfl, rfl, hy⟩
    · rintro ⟨z, rfl, hz, -⟩
      rw [Except.error.inj hz]

end Existence

namespace Sample

def missing : Response := { status := 404 }

end Sample

end Courier.Service
