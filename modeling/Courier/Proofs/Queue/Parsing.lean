import Courier.Proofs.Queue.Wire
import Mathlib.Data.List.Forall2
import Mathlib.Data.List.TakeWhile
import Mathlib.Logic.ExistsUnique

/-! Parsing with any decoder. A decoder is asked once, about the whole body, and never about an answer
without content. What it refuses stays refused, and of what it gives nothing is lost. -/

namespace Courier

section Ids

/-- The last part of an address has no slash, and what stands before it ends in one. -/
theorem parseMessageId_addresses (href : String) :
    HasNoSlash (parseMessageId href) ∧ Addresses href (parseMessageId href) := by
  have hid : (parseMessageId href).toList =
      (href.toList.reverse.takeWhile (· ≠ '/')).reverse := String.toList_ofList
  -- Backwards, the id is what comes before the first slash.
  have hsplit := List.takeWhile_append_dropWhile (p := (· ≠ '/')) (l := href.toList.reverse)
  constructor
  · rw [HasNoSlash, hid, List.mem_reverse]
    intro hmem
    simpa using List.mem_takeWhile_imp hmem
  · cases hrest : href.toList.reverse.dropWhile (· ≠ '/') with
    | nil =>
      left
      rw [hrest, List.append_nil] at hsplit
      rw [← String.toList_inj, hid, hsplit, List.reverse_reverse]
    | cons c before =>
      right
      have hc : c = '/' := by
        have hhead := List.head?_dropWhile_not (· ≠ '/') href.toList.reverse
        rw [hrest] at hhead
        simpa using hhead
      have hback : href.toList = before.reverse ++ '/' :: (parseMessageId href).toList := by
        rw [hrest, hc] at hsplit
        rw [hid, ← List.reverse_reverse href.toList]
        conv_lhs => rw [← hsplit]
        simp
      refine ⟨String.ofList before.reverse, ?_⟩
      rw [← String.toList_inj, hback]
      simp

theorem existsUnique_id (href : String) : ∃! id, HasNoSlash id ∧ Addresses href id := by
  refine ⟨parseMessageId href, parseMessageId_addresses href, ?_⟩
  rintro id ⟨hid, h⟩
  exact (parseMessageId_of_addresses hid h).symm

end Ids

section Decoding

variable {ε α β : Type}

/-- Decoding that may fail, with the bodies that were decoded so far. -/
abbrev Recorded (ε : Type) := ExceptT ε (StateM (List Bytes))

def recorded (decode : Bytes → Except ε α) (body : Bytes) : Recorded ε α := do
  modify (· ++ [body])
  ofExcept (decode body)

/-- What a decoding came to, and the bodies that were decoded for it. -/
def ran (x : Recorded ε α) : Except ε α × List Bytes := x.run.run []

theorem ran_recorded_bind (decode : Bytes → Except ε α) (body : Bytes) (f : α → β) :
    ran (recorded decode body >>= fun a => pure (f a)) = ((decode body).map f, [body]) := by
  cases h : decode body with
  | error e =>
    simp only [ran, recorded, h]
    rfl
  | ok a =>
    simp only [ran, recorded, h]
    rfl

theorem ran_parseStream (decode : Bytes → Except ε Listing) (status : Int) (body : Bytes) :
    ran (parseStream (recorded decode) status body) =
      if status = noContent then (.ok (.empty, [emptyStreamEntry]), [])
      else ((decode body).map fun l => (l.toStream, [streamEntry l]), [body]) := by
  unfold parseStream
  by_cases hs : status = noContent
  · rw [if_pos hs, if_pos hs]
    rfl
  · rw [if_neg hs, if_neg hs]
    exact ran_recorded_bind decode body _

theorem ran_parseIds (decode : Bytes → Except ε Posted) (body : Bytes) :
    ran (parseIds (recorded decode) body) =
      ((decode body).map fun p => (p.ids, postedEntries p), [body]) :=
  ran_recorded_bind decode body _

end Decoding

section Contents

/-- A page holds all of a listing: each message under the id in its address, in order, and the links as
a set. -/
structure Listing.Describes (l : Listing) (s : MessageStream) : Prop where
  messages : List.Forall₂ (fun listed m => HasNoSlash m.id ∧ Addresses listed.href m.id ∧
    m.ttl = listed.ttl ∧ m.body = listed.body ∧ m.age = listed.age) l.messages s.messages
  links : ∀ link, link ∈ s.links.toList ↔ link ∈ l.links
  nodup : s.links.toList.Nodup

theorem describes_toStream (l : Listing) : l.Describes l.toStream := by
  refine ⟨?_, fun _ => LinkSet.mem_ofList, LinkSet.nodup_ofList l.links⟩
  apply List.forall₂_map_right_iff.mpr
  apply List.forall₂_same.mpr
  intro m _
  obtain ⟨hid, haddress⟩ := parseMessageId_addresses m.href
  exact ⟨hid, haddress, rfl, rfl, rfl⟩

theorem ids_address (p : Posted) :
    List.Forall₂ (fun href id => HasNoSlash id ∧ Addresses href id) p.resources p.ids := by
  apply List.forall₂_map_right_iff.mpr
  apply List.forall₂_same.mpr
  intro href _
  exact parseMessageId_addresses href

end Contents

/-- Whatever the decoder: an answer without content is an empty page, of which the decoder hears nothing.
About any other answer it is asked once, with the body as it came. Its error is the parser's error, and
a page or a list of ids holds all that the decoder gave, each message under the only id that its
address can mean. -/
theorem parser_decodes_once {ε : Type} :
    (∀ (decode : Bytes → Except ε Listing) (status : Int) (body : Bytes),
      let p : StreamParser (Recorded ε) := ⟨recorded decode⟩
      p status body = p.parse status body ∧
      (status = 204 → ∃ entries, ran (p.parse status body) = (.ok (⟨[], ⟨[]⟩⟩, entries), [])) ∧
      (status ≠ 204 →
        (∀ e, decode body = .error e → ran (p.parse status body) = (.error e, [body])) ∧
        ∀ l, decode body = .ok l → ∃ stream entries,
          ran (p.parse status body) = (.ok (stream, entries), [body]) ∧ l.Describes stream)) ∧
    (∀ (decode : Bytes → Except ε Posted) (status : Int) (body : Bytes),
      let p : IdsParser (Recorded ε) := ⟨recorded decode⟩
      p status body = p.parse status body ∧
      (∀ e, decode body = .error e → ran (p.parse status body) = (.error e, [body])) ∧
      ∀ posted, decode body = .ok posted → ∃ ids entries,
        ran (p.parse status body) = (.ok (ids, entries), [body]) ∧
        List.Forall₂ (fun href id => HasNoSlash id ∧ Addresses href id) posted.resources ids) ∧
    ∀ href, ∃! id, HasNoSlash id ∧ Addresses href id := by
  refine ⟨fun decode status body => ?_, fun decode status body => ?_, existsUnique_id⟩
  · intro p
    have hran : ran (p.parse status body) = _ := ran_parseStream decode status body
    refine ⟨rfl, fun hs => ⟨[emptyStreamEntry], ?_⟩, fun hs => ⟨fun e he => ?_, fun l hl => ?_⟩⟩
    · rw [hran, noContent, if_pos hs]
      rfl
    · rw [hran, noContent, if_neg hs, he]
      rfl
    · refine ⟨l.toStream, [streamEntry l], ?_, describes_toStream l⟩
      rw [hran, noContent, if_neg hs, hl]
      rfl
  · intro p
    have hran : ran (p.parse status body) = _ := ran_parseIds decode body
    refine ⟨rfl, fun e he => ?_, fun posted hp => ?_⟩
    · rw [hran, he]
      rfl
    · refine ⟨posted.ids, postedEntries posted, ?_, ids_address posted⟩
      rw [hran, hp]
      rfl

namespace Listing.Sample

/-- A decoder that refuses an empty body, and finds the same in every other one. -/
def decodeFixed : Bytes → Except String Listing
  | [] => .error "empty"
  | _ => .ok ⟨[⟨"/v1/queues/q/messages/m1", 300, "hi", -5⟩, ⟨"m2/", 0, "", 0⟩], [next, next]⟩

def fixed : StreamParser (Recorded String) := ⟨recorded decodeFixed⟩

end Listing.Sample

open Listing.Sample in
theorem parser_decodes_once_fixed :
    (∃ entries, ran (fixed.parse 204 [123]) = (.ok (⟨[], ⟨[]⟩⟩, entries), [])) ∧
    (∃ stream entries, ran (fixed.parse 200 [123]) = (.ok (stream, entries), [[123]]) ∧
      stream.messages.length = 2 ∧ ∀ link, link ∈ stream.links.toList ↔ link = next) ∧
    ran (fixed.parse 200 []) = (.error "empty", [[]]) := by
  obtain ⟨-, hnone, -⟩ := parser_decodes_once.1 decodeFixed 204 [123]
  obtain ⟨-, -, hsome⟩ := parser_decodes_once.1 decodeFixed 200 [123]
  obtain ⟨-, -, herror⟩ := parser_decodes_once.1 decodeFixed 200 []
  refine ⟨hnone rfl, ?_, (herror (by decide)).1 "empty" rfl⟩
  obtain ⟨stream, entries, hran, hd⟩ := (hsome (by decide)).2 _ rfl
  refine ⟨stream, entries, hran, hd.messages.length_eq.symm, fun link => ?_⟩
  rw [hd.links link]
  simp

end Courier
