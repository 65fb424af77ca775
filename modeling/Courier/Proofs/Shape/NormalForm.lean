import Courier.Proofs.Queue.LinkSet
import Courier.Proofs.Shape.Checked
import Courier.Queue.Listing
import Courier.Request

/-! Checked values are in normal form: what is written of one is checked as that same value, whatever was
converted, left out or renamed when it was checked for the first time. -/

namespace Courier

open Checked

section Requests

theorem checkHeader_headerJson (h : Header) :
    HttpRequest.checkHeader (HttpRequest.headerJson h) = .ok h := rfl

theorem checkParams_written (params : Option (Entries String Json)) :
    HttpRequest.checkParams ((params.map Json.obj).getD .null) = .ok params := by
  cases params <;> rfl

theorem check_request (r : HttpRequest) : Model.check (Model.toJson r) = .ok r := by
  have hheaders := listOf_map checkHeader_headerJson .tupleType r.headers
  have hparams := checkParams_written r.params
  refine and_eq_ok (and_eq_ok (and_eq_ok (and_eq_ok (and_eq_ok (map_eq_ok ?method _) ?endpoint)
    ?headers) ?params) ?payload) rfl
  case method => exact required_eq_ok rfl (text_eq_ok r.method)
  case endpoint => exact required_eq_ok rfl (text_eq_ok r.endpoint)
  case headers => exact optional_eq_ok rfl hheaders []
  case params => exact optional_eq_ok rfl hparams none
  case payload => exact optional_eq_ok rfl rfl .null

end Requests

section Links

theorem check_link_toJson (l : Link) : Link.check l.toJson = .ok l := rfl

end Links

section Queue

theorem check_message (m : Message) : Message.check m.toJson = .ok m := rfl

theorem check_listed_toJson (m : ListedMessage) : ListedMessage.check m.toJson = .ok m := rfl

/-- A page of messages with its links in a given order. -/
def MessageStream.writtenAs (s : MessageStream) (links : List Link) : Json :=
  .obj [("messages", .arr (s.messages.map Message.toJson)),
    ("links", .arr (links.map Link.toJson))]

theorem check_stream (messages : List Message) (set : LinkSet) (links : List Link) :
    MessageStream.check (MessageStream.writtenAs ⟨messages, set⟩ links) =
      .ok ⟨messages, .ofList links⟩ := by
  have hmessages := listOf_map check_message .tupleType messages
  have hlinks := listOf_map check_link_toJson .frozenSetType links
  exact and_eq_ok (map_eq_ok (optional_eq_ok rfl hmessages []) _) (optional_eq_ok rfl hlinks [])

/-- The links of a checked page are a set of some list. -/
theorem links_of_check {v : Json} {s : MessageStream} (h : MessageStream.check v = .ok s) :
    ∃ links, s.links = .ofList links := by
  unfold MessageStream.check at h
  generalize Checked.entries v = x at h
  cases x with
  | faulty fs => cases h
  | ok es =>
    simp only [Checked.bind] at h
    generalize Checked.optional es "messages" [] (Checked.listOf .tupleType Message.check) = ms at h
    generalize Checked.optional es "links" [] (Checked.listOf .frozenSetType Link.check) = ls at h
    cases ms with
    | faulty fs => cases ls <;> cases h
    | ok ms =>
      cases ls with
      | faulty fs => cases h
      | ok ls =>
        cases h
        exact ⟨ls, rfl⟩

theorem check_stream_perm {v : Json} {s : MessageStream} (h : MessageStream.check v = .ok s)
    {links : List Link} (hperm : links.Perm s.links.toList) :
    MessageStream.check (s.writtenAs links) = .ok s := by
  obtain ⟨messages, set⟩ := s
  obtain ⟨ls, hset⟩ := links_of_check h
  simp only at hset hperm
  have hmem : ∀ l, l ∈ links ↔ l ∈ ls := by
    intro l
    rw [hperm.mem_iff, hset]
    exact LinkSet.mem_ofList
  -- Sets of links are equal if they have the same members, in whatever order these came.
  rw [check_stream, LinkSet.ofList_congr hmem, hset]

theorem check_listing_toJson (l : Listing) : Listing.check l.toJson = .ok l := by
  have hmessages := listOf_map check_listed_toJson .tupleType l.messages
  have hlinks := listOf_map check_link_toJson .tupleType l.links
  exact and_eq_ok (map_eq_ok (optional_eq_ok rfl hmessages []) _) (optional_eq_ok rfl hlinks [])

theorem check_posted_toJson (p : Posted) : Posted.check p.toJson = .ok p := by
  have hresources := listOf_map text_eq_ok .tupleType p.resources
  exact and_eq_ok (map_eq_ok (optional_eq_ok rfl hresources []) _) rfl

end Queue

/-- A value that was checked once, and is written with the names of its fields, is checked as the same
value again; a page of messages in whatever order its links are written, and a link also under the
short name of its relation. -/
theorem check_written :
    (∀ (v : Json) (r : HttpRequest), Model.check v = .ok r →
      Model.check (Model.toJson r) = .ok r) ∧
    (∀ (v : Json) (l : Link), Model.check v = .ok l →
      Model.check (Model.toJson l) = .ok l ∧
      Model.check (.obj [("rel", .str l.relation), ("href", .str l.href)]) = .ok l) ∧
    (∀ (v : Json) (m : Message), Model.check v = .ok m → Model.check (Model.toJson m) = .ok m) ∧
    (∀ (v : Json) (s : MessageStream), Model.check v = .ok s →
      Model.check (Model.toJson s) = .ok s ∧
      ∀ links : List Link, links.Perm s.links.toList → Model.check (s.writtenAs links) = .ok s) ∧
    (∀ (v : Json) (m : ListedMessage), Model.check v = .ok m →
      Model.check (Model.toJson m) = .ok m) ∧
    (∀ (v : Json) (l : Listing), Model.check v = .ok l → Model.check (Model.toJson l) = .ok l) ∧
    ∀ (v : Json) (p : Posted), Model.check v = .ok p → Model.check (Model.toJson p) = .ok p := by
  refine ⟨fun _ r _ => check_request r, fun _ l _ => ⟨rfl, rfl⟩, fun _ m _ => rfl,
    fun v s h => ⟨check_stream_perm h (.refl _), fun links hl => check_stream_perm h hl⟩,
    fun _ m _ => rfl, fun _ l _ => check_listing_toJson l, fun _ p _ => check_posted_toJson p⟩

namespace MessageStream.Sample

/-- A page in which numbers are converted, a key is not known, and the links are out of order. -/
def loose : Json :=
  .obj [("links", .arr [.obj [("relation", .str "prev"), ("href", .str "p")],
      .obj [("rel", .str "next"), ("href", .str "n"), ("x", .null)]]),
    ("messages", .arr [.obj [("id", .str "m"), ("ttl", .str " +1_0.0"), ("body", .str ""),
      ("age", .bool true)]])]

def next : Link := ⟨"next", "n"⟩

def previous : Link := ⟨"prev", "p"⟩

def page : MessageStream := ⟨[⟨"m", 10, "", 1⟩], ⟨[next, previous]⟩⟩

end MessageStream.Sample

open MessageStream.Sample in
theorem check_written_page :
    Model.check loose = .ok page ∧ Model.check (Model.toJson page) = .ok page ∧
    Model.check (page.writtenAs [previous, next]) = .ok page := by
  have hcheck : Model.check loose = .ok page := by rfl
  obtain ⟨hwritten, hperm⟩ := check_written.2.2.2.1 loose page hcheck
  exact ⟨hcheck, hwritten, hperm [previous, next] (.swap next previous [])⟩

end Courier
