import Courier.Proofs.Json.RoundTrip
import Courier.Proofs.Queue.LinkSet
import Courier.Proofs.Shape.Checked
import Courier.Proofs.Text.Parts
import Courier.Queue.Parsing

/-! The queue service's bodies as it writes them, and the messages, links and ids read back from them. -/

namespace Courier

/-- An address of a message: its id alone, or a path whose last part is the id. -/
def Addresses (href id : String) : Prop := href = id ∨ ∃ path, href = path ++ "/" ++ id

def HasNoSlash (id : String) : Prop := '/' ∉ id.toList

instance : DecidablePred HasNoSlash := fun id => inferInstanceAs (Decidable ('/' ∉ id.toList))

/-- An integer of fewer than 4300 digits. -/
def Short (n : Int) : Prop := (natDigits n.natAbs).length < 4300

instance : DecidablePred Short := fun n =>
  inferInstanceAs (Decidable ((natDigits n.natAbs).length < 4300))

/-- A message that can be listed. -/
structure Message.Listable (m : Message) : Prop where
  id : HasNoSlash m.id
  ttl : Short m.ttl
  age : Short m.age

def Message.listedAs (m : Message) (href : String) : ListedMessage := ⟨href, m.ttl, m.body, m.age⟩

section Wire

def Link.wire (l : Link) : Json := .obj [("rel", .str l.relation), ("href", .str l.href)]

def ListedMessage.wire (m : ListedMessage) : Json :=
  .obj [("href", .str m.href), ("ttl", .int m.ttl), ("age", .int m.age), ("body", .str m.body)]

def Listing.wire (l : Listing) : Json :=
  .obj [("links", .arr (l.links.map Link.wire)), ("messages", .arr (l.messages.map ListedMessage.wire))]

def Posted.wire (p : Posted) : Json :=
  .obj [("partial", .bool p.partly), ("resources", .arr (p.resources.map Json.str))]

end Wire

theorem parseMessageId_of_addresses {href id : String} (hid : HasNoSlash id)
    (h : Addresses href id) : parseMessageId href = id := by
  have hslash : '/' ∉ id.toList.reverse := mt List.mem_reverse.mp hid
  have hback : ∃ r : List Char, href.toList.reverse = id.toList.reverse ++ r ∧
      ∀ c ∈ r.head?, c = '/' := by
    rcases h with rfl | ⟨path, rfl⟩
    · exact ⟨[], by simp, by simp⟩
    · exact ⟨'/' :: path.toList.reverse, by simp, by simp⟩
  obtain ⟨r, hr, hstop⟩ := hback
  rw [parseMessageId, hr, (span_mark hslash hstop).1, List.reverse_reverse, String.ofList_toList]

theorem toMessage_listedAs {m : Message} {href : String} (hm : m.Listable)
    (h : Addresses href m.id) : (m.listedAs href).toMessage = m := by
  have hid := parseMessageId_of_addresses hm.id h
  show Message.mk (parseMessageId href) m.ttl m.body m.age = m
  rw [hid]

section Fits

variable {depth : Nat}

theorem fits_arr_map {α : Type} {digits : Nat} {f : α → Json} {xs : List α}
    (h : ∀ x ∈ xs, Json.Fits digits depth (f x)) :
    Json.Fits digits (depth + 1) (.arr (xs.map f)) := by
  refine .arr fun v hv => ?_
  obtain ⟨x, hx, rfl⟩ := List.mem_map.mp hv
  exact h x hx

theorem fits_link (l : Link) : Json.Fits 4300 (depth + 1) l.wire :=
  .obj (by simp) (by simp [Json.Fits.str])

theorem fits_listed {m : Message} (hm : m.Listable) (href : String) :
    Json.Fits 4300 (depth + 1) (m.listedAs href).wire := by
  have httl : Json.Fits 4300 depth (.int m.ttl) := .int (Nat.le_of_lt hm.ttl)
  have hage : Json.Fits 4300 depth (.int m.age) := .int (Nat.le_of_lt hm.age)
  exact .obj (by simp) (by simp [Message.listedAs, Json.Fits.str, httl, hage])

theorem fits_listing {l : Listing}
    (h : ∀ m ∈ l.messages, Json.Fits 4300 (depth + 1) m.wire) :
    Json.Fits 4300 (depth + 3) l.wire := by
  have hlinks : Json.Fits 4300 (depth + 2) (.arr (l.links.map Link.wire)) :=
    fits_arr_map fun l _ => fits_link l
  have hmessages : Json.Fits 4300 (depth + 2) (.arr (l.messages.map ListedMessage.wire)) :=
    fits_arr_map h
  exact .obj (by simp) (by simp [hlinks, hmessages])

theorem fits_posted (p : Posted) : Json.Fits 4300 (depth + 2) p.wire := by
  have hresources : Json.Fits 4300 (depth + 1) (.arr (p.resources.map Json.str)) :=
    fits_arr_map fun s _ => .str s
  exact .obj (by simp) (by simp [hresources, Json.Fits.bool])

end Fits

section Checks

open Checked

theorem check_link (l : Link) : Link.check l.wire = .ok l := rfl

theorem check_listed (m : ListedMessage) : ListedMessage.check m.wire = .ok m := rfl

theorem check_listing (l : Listing) : Listing.check l.wire = .ok l := by
  have hmessages := listOf_map check_listed .tupleType l.messages
  have hlinks := listOf_map check_link .tupleType l.links
  exact and_eq_ok (map_eq_ok (optional_eq_ok rfl hmessages []) _) (optional_eq_ok rfl hlinks [])

theorem check_posted (p : Posted) : Posted.check p.wire = .ok p := by
  have hresources := listOf_map text_eq_ok .tupleType p.resources
  exact and_eq_ok (map_eq_ok (optional_eq_ok rfl hresources []) _) rfl

end Checks

section Bodies

theorem decodeBody_encode_print {α : Type} [Model α] {v : Json} {a : α}
    (hf : Json.Fits 4300 200 v) (hc : Model.check v = .ok a) :
    decodeBody (utf8Encode v.print) = .ok a := by
  rw [decodeBody, checkBody_encode_print hf, hc]

theorem parseStream_wire {l : Listing} {status : Int} (hs : status ≠ noContent)
    (hf : ∀ m ∈ l.messages, Json.Fits 4300 198 m.wire) :
    parseStream decodeBody status (utf8Encode l.wire.print) =
      .ok (l.toStream, [streamEntry l]) := by
  have hbody : decodeBody (utf8Encode l.wire.print) = .ok l :=
    decodeBody_encode_print (fits_listing hf) (check_listing l)
  rw [parseStream, if_neg hs, hbody]
  rfl

theorem parseIds_wire (p : Posted) :
    parseIds decodeBody (utf8Encode p.wire.print) = .ok (p.ids, postedEntries p) := by
  have hbody : decodeBody (utf8Encode p.wire.print) = .ok p :=
    decodeBody_encode_print (fits_posted p) (check_posted p)
  rw [parseIds, hbody]
  rfl

end Bodies

namespace Listing.Sample

/-- A message whose text needs every kind of escape. -/
def greeting : Message := ⟨"m1", 300, "say \"hi\"\né😀", -5⟩

def rows : List (Message × String) := [(greeting, "/v1/queues/q/messages/m1"), (greeting, "m1")]

def next : Link := ⟨"next", "/v1/queues/q/messages?marker=6"⟩

end Listing.Sample

end Courier
