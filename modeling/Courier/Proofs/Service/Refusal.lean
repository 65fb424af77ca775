import Courier.Proofs.Json.Nesting
import Courier.Proofs.Service.Sending
import Courier.Proofs.Text.Charset

/-! Refusals: answers that find fault with the request. A request reports the refusal that it meets
exactly if the body can be read, for a JSON value and as text. -/

namespace Courier.Service

namespace Reader

/-- A reader reads a response if it fails neither at the JSON value of the body, which need not hold
one, nor at the text. -/
def Reads (d : Reader) (a : Response) : Prop := (∃ v, d.json a = .ok v) ∧ ∃ t, d.text a = .ok t

/-- What a reader raises at a response. The JSON value comes first. -/
inductive Raises (d : Reader) (a : Response) (x : Trouble) : Prop
  | json (h : d.json a = .error x)
  | text {v : Option Json} (hv : d.json a = .ok v) (h : d.text a = .error x)

section Any

variable {d : Reader} {a : Response}

theorem not_reads_iff : ¬ d.Reads a ↔ ∃ x, d.Raises a x := by
  constructor
  · intro h
    cases hj : d.json a with
    | error x => exact ⟨x, .json hj⟩
    | ok v =>
      cases ht : d.text a with
      | error x => exact ⟨x, .text hj ht⟩
      | ok t => exact (h ⟨⟨v, hj⟩, t, ht⟩).elim
  · rintro ⟨x, hx⟩ ⟨⟨v, hv⟩, t, ht⟩
    cases hx with
    | json h => cases hv.symm.trans h
    | text _ h => cases ht.symm.trans h

theorem Raises.unique {x y : Trouble} (h : d.Raises a x) (h' : d.Raises a y) : x = y := by
  cases h with
  | json h =>
    cases h' with
    | json h' => exact Except.error.inj (h.symm.trans h')
    | text hv => cases h.symm.trans hv
  | text hv ht =>
    cases h' with
    | json h' => cases hv.symm.trans h'
    | text _ ht' => exact Except.error.inj (ht.symm.trans ht')

theorem errorDetail_of_json {v : Option Json} (h : d.json a = .ok v) :
    (∃ e, d.errorDetail a = .ok e) ∨ d.errorDetail a = (d.text a).map fallbackDetail := by
  unfold errorDetail
  simp only [h]
  split
  · exact .inl ⟨_, rfl⟩
  · exact .inr rfl

theorem reads_iff : d.Reads a ↔ ∃ e t, d.errorDetail a = .ok e ∧ d.text a = .ok t := by
  constructor
  · rintro ⟨⟨v, hv⟩, t, ht⟩
    rcases errorDetail_of_json hv with ⟨e, he⟩ | he
    · exact ⟨e, t, he, ht⟩
    · exact ⟨fallbackDetail t, t, by rw [he, ht]; rfl, ht⟩
  · rintro ⟨e, t, he, ht⟩
    refine ⟨?_, t, ht⟩
    cases hj : d.json a with
    | ok v => exact ⟨v, rfl⟩
    | error x => simp [errorDetail, hj] at he

theorem raises_of_errorDetail {x : Trouble} (h : d.errorDetail a = .error x) : d.Raises a x := by
  cases hj : d.json a with
  | error y =>
    have hy : d.errorDetail a = .error y := by simp only [errorDetail, hj]
    cases hy.symm.trans h
    exact .json hj
  | ok v =>
    rcases errorDetail_of_json hj with ⟨e, he⟩ | he
    · cases he.symm.trans h
    · cases ht : d.text a with
      | ok t => simp [he, ht, Except.map] at h
      | error y =>
        have hy : y = x := by simpa [he, ht, Except.map] using h
        exact hy ▸ .text hj ht

theorem raises_of_text {e : String} {x : Trouble} (h : d.errorDetail a = .ok e)
    (ht : d.text a = .error x) : d.Raises a x := by
  cases hj : d.json a with
  | error y => simp [errorDetail, hj] at h
  | ok v => exact .text hj ht

end Any

section Standard

variable {levels : Nat} {others : OtherSets} {a : Response}

theorem text_of_unnamed (h : a.charsetName = .ok none) :
    ∃ t, (standard levels others).text a = .ok t := by
  by_cases hb : a.body = []
  · exact ⟨"", by simp [standard, hb]⟩
  · obtain ⟨t, ht⟩ := (Charset.decode_eq_ok_iff .utf8 hb).mpr id
    exact ⟨t, by simp [standard, hb, h, decode, ht]⟩

theorem text_of_named {name : String} {set : Charset} (h : a.charsetName = .ok (some name))
    (hs : Charset.named? name = .ok (some set)) :
    (∃ t, (standard levels others).text a = .ok t) ↔ ¬ set.Refuses a.body := by
  by_cases hb : a.body = []
  · rw [hb]
    exact iff_of_true ⟨"", by simp [standard, hb]⟩ (Charset.not_refuses_nil set)
  · rw [← Charset.decode_eq_ok_iff set hb]
    simp [standard, hb, h, decode, hs]

theorem json_of_openings (h : ∀ s, Charset.jsonCharacters? a.body = some s →
    Json.openings s ≤ levels) : ∃ v, (standard levels others).json a = .ok v := by
  cases hs : Charset.jsonCharacters? a.body with
  | none => exact ⟨none, by simp only [standard, hs]⟩
  | some s =>
    cases hr : Json.read ⟨levels, true, 4300⟩ s with
    | ok v => exact ⟨some v, by simp only [standard, hs, hr]⟩
    | error e =>
      cases e with
      | malformed => exact ⟨none, by simp only [standard, hs, hr]⟩
      | tooDeep inObject =>
        have hlt : levels < Json.openings s := Json.depth_lt_openings hr
        have hle := h s hs
        omega

/-- One bracket alone would not tell the encoding of a body. -/
theorem json_unclosed {n : Nat} {s : List Char} (hn : max 1 levels < n)
    (hb : a.body = utf8Encode (List.replicate n '[' ++ s)) :
    (standard levels others).json a = .error (tooDeep false) := by
  have hread : Json.read ⟨levels, true, 4300⟩ (List.replicate n '[' ++ s) =
      .error (.tooDeep false) := Json.read_unclosed (lt_of_le_of_lt (le_max_right 1 levels) hn) s
  have hchars : Charset.jsonCharacters? a.body = some (List.replicate n '[' ++ s) := by
    obtain ⟨k, rfl⟩ : ∃ k, n = k + 2 := ⟨n - 2, by omega⟩
    rw [hb]
    exact Charset.jsonCharacters?_brackets _
  simp only [standard, hchars, hread]

/-- When a standard reader reads a response, and when its text. -/
theorem standard_reads (levels : Nat) (others : OtherSets) (a : Response) :
    ((∀ cs, Charset.jsonCharacters? a.body = some cs → Json.openings cs ≤ levels) →
      (∃ t, (standard levels others).text a = .ok t) → (standard levels others).Reads a) ∧
    (a.charsetName = .ok none → ∃ t, (standard levels others).text a = .ok t) ∧
    (∀ name set, a.charsetName = .ok (some name) → Charset.named? name = .ok (some set) →
      ((∃ t, (standard levels others).text a = .ok t) ↔ ¬ set.Refuses a.body)) ∧
    ∀ n cs, max 1 levels < n → a.body = utf8Encode (List.replicate n '[' ++ cs) →
      ¬ (standard levels others).Reads a :=
  ⟨fun hfew ht => ⟨json_of_openings hfew, ht⟩, text_of_unnamed, fun _ _ => text_of_named,
    fun _ _ hn hb => not_reads_iff.mpr ⟨_, .json (json_unclosed hn hb)⟩⟩

end Standard

end Reader

section Sending

variable {c : Client} {r : HttpRequest} {script : Script} {s : State} {a : Response}

theorem judge_refusal {p : Reply} (ha : p.outcome = .response a) (h4 : 400 ≤ a.status)
    (h5 : a.status < 500) :
    (∃ d t, p.reader.errorDetail a = .ok d ∧ p.reader.text a = .ok t ∧
      judge p = .stop (.response a.status d t)) ∨
    ∃ x, p.reader.Raises a x ∧ judge p = .stop (.failed (.ofTrouble x)) := by
  have hj := judged p
  rw [ha] at hj
  generalize judge p = v at hj ⊢
  cases hj with
  | accepted h => omega
  | serverFault h =>
    have := h.1
    omega
  | refused _ _ hd ht => exact .inl ⟨_, _, hd, ht, rfl⟩
  | unexplained _ _ hd => exact .inr ⟨_, Reader.raises_of_errorDetail hd, rfl⟩
  | unread _ _ hd ht => exact .inr ⟨_, Reader.raises_of_text hd ht, rfl⟩

theorem judge_raises {p : Reply} {x : Trouble} (ha : p.outcome = .response a)
    (h4 : 400 ≤ a.status) (h5 : a.status < 500) (hx : p.reader.Raises a x) :
    judge p = .stop (.failed (.ofTrouble x)) := by
  rcases judge_refusal ha h4 h5 with ⟨d, t, hd, ht, -⟩ | ⟨y, hy, hj⟩
  · exact (Reader.not_reads_iff.mpr ⟨x, hx⟩ (Reader.reads_iff.mpr ⟨d, t, hd, ht⟩)).elim
  · rw [hj, hy.unique hx]

theorem send_once (h : s.breaker.isOpen = false) (ha : (script 0).outcome = .response a)
    (h5 : a.status < 500) :
    c.send r script s = c.conclude r (c.baseUrl ++ r.endpoint) s.clock
      ⟨(judge (script 0)).final, (c.exchange (c.callFor s.correlation r) (script 0) s).1,
        (c.exchange (c.callFor s.correlation r) (script 0) s).2⟩ := by
  have hlast : ∀ f, judge (script 0) ≠ .retry f := by
    intro f hf
    have hr := judge_eq_retry_iff.mp ⟨f, hf⟩
    rw [ha] at hr
    have := hr.1
    omega
  rw [send_clear h, attempts_last (.inr hlast)]

theorem send_once_filterMap {α : Type} (f : Event → Option α) (hl : ∀ e, f (.logged e) = none)
    (hc : ∀ t, f (.created t) = none) (h : s.breaker.isOpen = false)
    (ha : (script 0).outcome = .response a) (h5 : a.status < 500) :
    (c.send r script s).events.filterMap f =
      [Event.called (c.callFor s.correlation r)].filterMap f := by
  rw [send_once h ha h5, conclude_filterMap _ _ _ _ _ f hl, exchange_filterMap _ _ _ _ f hc]

/-- What one response leaves behind, and how it ends the request, by the verdict on it. -/
theorem send_judged {v : Except ClientError Response} (h : s.breaker.isOpen = false)
    (ha : (script 0).outcome = .response a) (h5 : a.status < 500)
    (hv : (judge (script 0)).final = v) (hr : Client.recordable v = false) :
    (c.send r script s).state.breaker = s.breaker ∧
    (c.send r script s).state.metrics = s.metrics.measure
      ⟨c.label r.method r.endpoint, Client.statusLabel v,
        (s.clock.add (script 0).delay).sub s.clock⟩ ∧
    EndsAs ((s.clock.add (script 0).delay).sub s.clock)
      (Client.present (c.baseUrl ++ r.endpoint) v) (c.send r script s).result := by
  have hclock : (c.send r script s).state.clock = s.clock.add (script 0).delay := by
    rw [send_once h ha h5, conclude_state]
    simp only [Client.exchange, connect_state]
  rw [← hclock, send_once h ha h5, hv]
  refine ⟨?_, ?_, conclude_endsAs _ _ _ _ _⟩
  · simp [conclude_state, hr]
  · simp [conclude_state]

end Sending

/-- A request that is refused makes one call, does not wait, and leaves the breaker as it was. It
reports the refusal with its text, and is measured under its status, exactly if the reader reads the
body; otherwise it fails as the reader does. A standard reader reads a body if no more brackets open
in it than there are levels, and its set does not refuse the bytes. It does not read a body that
begins with more brackets. -/
theorem refusal_reported_iff (c : Client) (r : HttpRequest) (script : Script) (s : State)
    (a : Response) (h : s.breaker.isOpen = false) (h4 : 400 ≤ a.status) (h5 : a.status < 500)
    (ha : (script 0).outcome = .response a) :
    let sent := c.send r script s
    let reader := (script 0).reader
    let seconds := (s.clock.add (script 0).delay).sub s.clock
    sent.events.filterMap Event.call? = [c.callFor s.correlation r] ∧
    sent.events.filterMap Event.sleep? = [] ∧
    sent.state.breaker = s.breaker ∧
    (∃ status, sent.state.metrics =
        s.metrics.measure ⟨c.label r.method r.endpoint, status, seconds⟩ ∧
      (reader.Reads a → status = toString a.status) ∧ (¬ reader.Reads a → status = "error")) ∧
    (∃ e, EndsAs seconds e sent.result ∧
      ((∃ d t, reader.errorDetail a = .ok d ∧ reader.text a = .ok t ∧
        e = .error (.response a.status d t)) ↔ reader.Reads a) ∧
      (¬ reader.Reads a → ∃ x, reader.Raises a x ∧ e = .error (.failed (.ofTrouble x)))) ∧
    ∀ levels others, reader = .standard levels others →
      ((∀ cs, Charset.jsonCharacters? a.body = some cs → Json.openings cs ≤ levels) →
        (∃ t, reader.text a = .ok t) → reader.Reads a) ∧
      (a.charsetName = .ok none → ∃ t, reader.text a = .ok t) ∧
      (∀ name set, a.charsetName = .ok (some name) → Charset.named? name = .ok (some set) →
        ((∃ t, reader.text a = .ok t) ↔ ¬ set.Refuses a.body)) ∧
      ∀ n cs, max 1 levels < n → a.body = utf8Encode (List.replicate n '[' ++ cs) →
        ¬ reader.Reads a := by
  intro sent reader seconds
  refine ⟨send_once_filterMap _ (fun _ => rfl) (fun _ => rfl) h ha h5,
    send_once_filterMap _ (fun _ => rfl) (fun _ => rfl) h ha h5, ?_⟩
  have hstandard := fun levels others (hd : reader = .standard levels others) =>
    hd ▸ Reader.standard_reads levels others a
  rcases judge_refusal ha h4 h5 with ⟨d, t, hd, ht, hj⟩ | ⟨x, hx, hj⟩
  · have hl : reader.Reads a := Reader.reads_iff.mpr ⟨d, t, hd, ht⟩
    obtain ⟨hbreaker, hmetrics, hends⟩ := send_judged (r := r) h ha h5 (congrArg _ hj) rfl
    exact ⟨hbreaker, ⟨_, hmetrics, fun _ => rfl, fun hn => (hn hl).elim⟩,
      ⟨_, hends, iff_of_true ⟨d, t, hd, ht, rfl⟩ hl, fun hn => (hn hl).elim⟩, hstandard⟩
  · have hl : ¬ reader.Reads a := Reader.not_reads_iff.mpr ⟨x, hx⟩
    obtain ⟨hbreaker, hmetrics, hends⟩ := send_judged (r := r) h ha h5 (congrArg _ hj) rfl
    refine ⟨hbreaker, ⟨_, hmetrics, fun hy => (hl hy).elim, fun _ => rfl⟩,
      ⟨_, hends, iff_of_false ?_ hl, fun _ => ⟨x, hx, rfl⟩⟩, hstandard⟩
    rintro ⟨d, t, hd, ht, -⟩
    exact hl (Reader.reads_iff.mpr ⟨d, t, hd, ht⟩)

namespace Sample

def refusal (body : String) : Response := { status := 404, body := utf8Encode body.toList }

/-- A refusal with more arrays in each other than any interpreter has levels. -/
def deep : Response := { status := 404, body := utf8Encode (List.replicate 100000 '[') }

end Sample

open Sample in
theorem refusal_reported_missing :
    client.start.breaker.isOpen = false ∧ (Reader.standard).Reads (refusal "[[") ∧
    (client.send (get "/c") (always (.response (refusal "[["))) client.start).result =
      .error (.response 404 "[[" "[[") := by
  obtain ⟨-, -, -, -, ⟨e, hends, hresult, -⟩, hstandard⟩ := refusal_reported_iff client (get "/c")
    (always (.response (refusal "[["))) client.start (refusal "[[") rfl (by decide) (by decide) rfl
  obtain ⟨hfew, htext, -⟩ := hstandard 900 (fun _ => none) rfl
  have hl : (Reader.standard).Reads (refusal "[[") := by
    refine hfew ?_ (htext rfl)
    intro s hs
    have hchars : Charset.jsonCharacters? (refusal "[[").body = some ['[', '['] := by decide +kernel
    cases hchars.symm.trans hs
    decide
  obtain ⟨d, t, hd, ht, hr⟩ := hresult.mpr hl
  have hdetail : (Reader.standard).errorDetail (refusal "[[") = .ok "[[" := by decide +kernel
  have htext : (Reader.standard).text (refusal "[[") = .ok "[[" := by decide +kernel
  cases hdetail.symm.trans hd
  cases htext.symm.trans ht
  rw [hends.kept 0 (by decide +kernel)]
  exact ⟨rfl, hl, hr⟩

open Sample in
/-- A refusal whose body nests too deep is lost, and counts as an error without a status. -/
theorem refusal_lost_deep :
    (client.send (get "/c") (always (.response deep)) client.start).result =
      .error (.failed (.foreign "RecursionError"
        "maximum recursion depth exceeded while decoding a JSON array from a unicode string")) ∧
    (client.send (get "/c") (always (.response deep)) client.start).state.metrics.requests.map
      (·.status) = ["error"] := by
  have hjson : (Reader.standard).json deep = .error (Reader.tooDeep false) := by
    have hbody : deep.body = utf8Encode (List.replicate 100000 '[' ++ []) := by
      rw [List.append_nil]
      rfl
    exact Reader.json_unclosed (by decide) hbody
  have ha : ((always (.response deep) : Script) 0).outcome = .response deep := rfl
  have hraises : ((always (.response deep) : Script) 0).reader.Raises deep
      (Reader.tooDeep false) := by
    have hreader : ((always (.response deep) : Script) 0).reader = .standard := rfl
    rw [hreader]
    exact .json hjson
  have hj := judge_raises ha (by decide) (by decide) hraises
  obtain ⟨-, hmetrics, hends⟩ := send_judged (c := client) (r := get "/c") (s := client.start)
    rfl ha (by decide) (congrArg _ hj) rfl
  refine ⟨hends.kept 0 (by decide +kernel), ?_⟩
  rw [hmetrics]
  rfl

end Courier.Service
