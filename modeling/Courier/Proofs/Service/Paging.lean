import Courier.Proofs.Queue.LinkSet
import Courier.Proofs.Service.Performing
import Courier.Proofs.Url.Form

/-! From one page of a listing to the next: the marker that a link carries is the marker that is asked
for. -/

namespace Courier

/-- An address of some path whose query is a way of writing the pairs. -/
def Url.Carries (pairs : List (String × String)) (href : String) : Prop :=
  href.toList.length ≤ 65536 ∧ ∃ path query, PlainPath path ∧
    QueryWritten (pairs.map fun p => (p.1.toList, p.2.toList)) query ∧
    href.toList = path ++ '?' :: query

section Markers

variable {pairs : List (String × String)} {links : List Link} {stream : MessageStream}

theorem lookup_eq_find? (name : String) (pairs : List (String × String)) :
    pairs.lookup name = ((pairs.map fun p => (p.1.toList, p.2.toList)).find?
      (·.1 == name.toList)).map fun p => String.ofList p.2 := by
  induction pairs with
  | nil => rfl
  | cons p pairs ih =>
    obtain ⟨key, value⟩ := p
    rw [List.lookup_cons, ih]
    by_cases h : name = key
    · simp [h]
    · have hlist : ¬ key.toList = name.toList := fun he => h (String.toList_inj.mp he).symm
      have hname : (name == key) = false := beq_false_of_ne h
      simp [hname, hlist]

theorem Url.Carries.parameter?_eq {href : String} (h : Carries pairs href) (name : String) :
    parameter? href name = .ok (pairs.lookup name) := by
  obtain ⟨hlen, path, query, hp, hq, hu⟩ := h
  rw [parameter?_reference hu hp hq hlen, lookup_eq_find?]

theorem nextMarker_of_carries (h : ∃ l ∈ stream.links.toList, l.relation = "next")
    (hc : ∀ l ∈ stream.links.toList, l.relation = "next" → Url.Carries pairs l.href) :
    stream.nextMarker = .ok (pairs.lookup "marker") := by
  unfold MessageStream.nextMarker
  cases hf : stream.links.toList.find? (·.relation == "next") with
  | none =>
    obtain ⟨l, hl, hr⟩ := h
    have hne := List.find?_eq_none.mp hf l hl
    simp [hr] at hne
  | some l =>
    have hr : l.relation = "next" := by simpa using List.find?_some hf
    exact (hc l (List.mem_of_find?_eq_some hf) hr).parameter?_eq "marker"

theorem nextMarker_of_none (h : ∀ l ∈ stream.links.toList, l.relation ≠ "next") :
    stream.nextMarker = .ok none := by
  have hf : stream.links.toList.find? (·.relation == "next") = none := by
    rw [List.find?_eq_none]
    intro l hl
    simpa using h l hl
  rw [MessageStream.nextMarker, hf]

end Markers

namespace Service

/-- The page behind a marker. -/
def pageAt (marker : String) (limit : Option Int) (echo : Bool) : Page where
  marker := .str marker
  limit := (limit.map Json.int).getD .null
  echo := .bool echo

/-- The call that asks for the page behind a marker. -/
def pageCall (c : Client) (correlation : Option String) (queue marker : String) (limit : Option Int)
    (echo : Bool) : Call where
  method := "GET"
  url := c.baseUrl ++ "/queues/" ++ queue ++ "/messages"
  headers := c.headersFor correlation []
  params := some ([("echo", .str (if echo then "true" else "false")), ("marker", .str marker)] ++
    (limit.map fun n => ("limit", Json.int n)).toList)
  payload := none

section Asking

variable (c : Client) (script : Script) {s : State}

theorem params_pageAt (marker : String) (limit : Option Int) (echo : Bool) :
    (pageAt marker limit echo).params =
      [("echo", .str (if echo then "true" else "false")), ("marker", .str marker)] ++
        (limit.map fun n => ("limit", Json.int n)).toList := by
  cases limit <;> rfl

theorem listMessages_calls (h : s.breaker.isOpen = false) (queue marker : String)
    (limit : Option Int) (echo : Bool) :
    ∃ k, c.Takes script k ∧
      (c.listMessages queue (pageAt marker limit echo) script s).events.filterMap Event.call? =
        List.replicate k (pageCall c s.correlation queue marker limit echo) := by
  have hurl : c.baseUrl ++ "/queues/" ++ queue ++ "/messages" =
      c.baseUrl ++ Client.messagesEndpoint queue := by
    simp only [Client.messagesEndpoint, String.append_assoc]
  obtain ⟨n, -, -, hk, -, hcalls, -⟩ := send_tried c
    { method := "GET", endpoint := Client.messagesEndpoint queue,
      params := some (pageAt marker limit echo).params, more := () } script h
  refine ⟨n + 1, hk, ?_⟩
  rw [Client.listMessages, sendThen_calls, hcalls]
  congr 1
  rw [pageCall, hurl, ← params_pageAt]
  rfl

end Asking

/-- The links of a page, in whichever order the set of them goes, lead to the marker of the next page:
the first of that name in the query that they carry, with the escapes undone. A page without such a link
is the last one. And the page behind any marker is asked for by this marker as it is, even if it is
empty, with a limit exactly if one is given. -/
theorem next_page_asked (c : Client) (pairs : List (String × String)) (links : List Link)
    (stream : MessageStream) (hs : ∀ l, l ∈ stream.links.toList ↔ l ∈ links) :
    ((∀ l ∈ links, l.relation ≠ "next") → stream.nextMarker = .ok none) ∧
    ((∃ l ∈ links, l.relation = "next") →
      (∀ l ∈ links, l.relation = "next" → Url.Carries pairs l.href) →
      stream.nextMarker = .ok (pairs.lookup "marker")) ∧
    ∀ (queue marker : String) (limit : Option Int) (echo : Bool) (script : Script) (s : State),
      s.breaker.isOpen = false →
      ∃ k, c.Takes script k ∧
        (c.listMessages queue (pageAt marker limit echo) script s).events.filterMap Event.call? =
          List.replicate k (pageCall c s.correlation queue marker limit echo) := by
  simp only [← hs]
  exact ⟨nextMarker_of_none, nextMarker_of_carries,
    fun queue marker limit echo script _ h => listMessages_calls c script h queue marker limit echo⟩

namespace Sample

/-- Two fields of one name. The first one is written with escapes of both cases and two kinds of
spaces. -/
def accented : String := "/v1/queues/q/messages?marker=%c3%A9+%20&marker=z"

def accentedPairs : List (String × String) := [("marker", "é  "), ("marker", "z")]

def midway : MessageStream :=
  ⟨[], .ofList [⟨"self", "http://["⟩, ⟨"next", accented⟩, ⟨"next", accented⟩]⟩

theorem carries_accented : Url.Carries accentedPairs accented := by
  have hname : Url.FieldWritten "marker".toList "marker".toList :=
    Url.fieldWritten_self (by decide)
  have hfirst : Url.FieldWritten "é  ".toList "%c3%A9+%20".toList :=
    .escaped (e := "%c3%A9".toList) (.cons rfl rfl (.cons rfl rfl .nil))
      (.plus (.escaped (e := "%20".toList) (.cons rfl rfl .nil) .nil))
  have hsecond : Url.FieldWritten "z".toList "z".toList := Url.fieldWritten_self (by decide)
  have hpath : "/v1/queues/q/messages".toList.all (fun c => Url.isUnreserved c || c == '/') := by
    decide
  refine ⟨by decide, "/v1/queues/q/messages".toList, "marker=%c3%A9+%20&marker=z".toList,
    ⟨fun c hc => by simpa using List.all_eq_true.mp hpath c hc, _, rfl, by decide⟩, ?_, by decide⟩
  refine ⟨[(("marker".toList, "é  ".toList), "marker=%c3%A9+%20".toList),
    (("marker".toList, "z".toList), "marker=z".toList)], ?_, rfl, rfl⟩
  simp only [List.forall_mem_cons]
  exact ⟨⟨_, _, hname, hfirst, rfl⟩, ⟨_, _, hname, hsecond, rfl⟩, List.forall_mem_nil _⟩

end Sample

open Sample in
theorem next_page_asked_accent :
    (∀ l, l ∈ midway.links.toList ↔
      l ∈ [⟨"self", "http://["⟩, ⟨"next", accented⟩, ⟨"next", accented⟩]) ∧
    midway.nextMarker = .ok (some "é  ") ∧
    (client.listMessages "q" (pageAt "é  " (some 0) false) (always (.response { status := 204 }))
      client.start).events.filterMap Event.call? =
        [pageCall client none "q" "é  " (some 0) false] := by
  have hs : ∀ l, l ∈ midway.links.toList ↔
      l ∈ [⟨"self", "http://["⟩, ⟨"next", accented⟩, ⟨"next", accented⟩] :=
    fun _ => LinkSet.mem_ofList
  obtain ⟨-, hmarker, hcalls⟩ := next_page_asked client accentedPairs _ midway hs
  refine ⟨hs, ?_, ?_⟩
  · rw [hmarker ⟨⟨"next", accented⟩, by decide, rfl⟩ ?_]
    · rfl
    · simp only [List.forall_mem_cons]
      exact ⟨fun h => absurd h (by decide), fun _ => carries_accented, fun _ => carries_accented,
        List.forall_mem_nil _⟩
  · obtain ⟨k, hk, hc⟩ := hcalls "q" "é  " (some 0) false (always (.response { status := 204 }))
      client.start rfl
    have h1 : k = 1 :=
      hk.unique ⟨⟨by decide, .inr fun h => absurd h.1 (by decide)⟩, fun n hn => hn.1⟩
    rw [hc, h1]
    rfl

end Service

end Courier
