import Courier.Proofs.Entries
import Courier.Proofs.Metadata.Canonical

/-! Binding what was bound before. A binder knows the names that it wrote in whatever case they come
back, so its own headers, taken for metadata, are bound to themselves. -/

namespace Courier.Metadata

/-- Headers as metadata: of a repeated name the first place and the last value. -/
def Offered.ofHeaders (headers : List Header) : Offered :=
  .ofPairs (headers.map fun h => (.str h.1, .str h.2))

theorem Offered.ofHeaders_eq (headers : List Header) :
    ofHeaders headers = .ofTexts (Entries.ofPairs headers) := by
  have hsame (s t : String) : Json.same (.str s) (.str t) = (s == t) := rfl
  rw [ofHeaders, ofPairs, ofTexts, Entries.ofPairs, Entries.ofPairsBy_map Json.str Json.str hsame]

namespace Binder

section Echo

variable {stem : String} {entries echoed : List (String × String)}

theorem headerKey_eq_lower {b : Binder} {key : String} (h : b.stem <+: lower key.toList) :
    b.headerKey key = lower key.toList :=
  if_pos (List.isPrefixOf_iff_prefix.mpr h)

theorem header_of_lowerText_mem {key value : String}
    (h : lowerText key ∈ ((ofStem stem).headers entries).map (·.1)) :
    (ofStem stem).header (key, value) = (lowerText key, value) := by
  obtain ⟨header, hheader, hname⟩ := List.mem_map.mp h
  obtain ⟨entry, -, rfl⟩ := List.mem_map.mp hheader
  -- The stem is in front of the name that was written, so it need not be put there again.
  have hlower : (ofStem stem).headerKey entry.1 = lower key.toList := String.ofList_injective hname
  have hstem : (ofStem stem).stem <+: lower key.toList :=
    hlower ▸ stem_prefix_headerKey (ofStem stem) entry.1
  show (String.ofList ((ofStem stem).headerKey key), value) = _
  rw [headerKey_eq_lower hstem]
  rfl

theorem headers_of_lowerText_mem
    (h : ∀ e ∈ echoed, lowerText e.1 ∈ ((ofStem stem).headers entries).map (·.1)) :
    (ofStem stem).headers echoed = echoed.map fun e => (lowerText e.1, e.2) :=
  List.map_congr_left fun e he => header_of_lowerText_mem (h e he)

theorem lowerText_written {name : String}
    (h : name ∈ ((ofStem stem).headers entries).map (·.1)) : lowerText name = name := by
  obtain ⟨header, hheader, rfl⟩ := List.mem_map.mp h
  obtain ⟨entry, -, rfl⟩ := List.mem_map.mp hheader
  exact (canonical_header stem .set entry).isLower

theorem headers_of_written (h : ∀ e ∈ echoed, e.1 ∈ ((ofStem stem).headers entries).map (·.1)) :
    (ofStem stem).headers echoed = echoed := by
  have hself : ∀ e ∈ echoed, (ofStem stem).header e = e := by
    intro e he
    have hlower := lowerText_written (h e he)
    have hname : lowerText e.1 ∈ ((ofStem stem).headers entries).map (·.1) := by
      rw [hlower]
      exact h e he
    rw [header_of_lowerText_mem hname, hlower]
  exact (List.map_congr_left hself).trans (List.map_id echoed)

theorem headers_ofPairs_headers (entries : List (String × String)) :
    (ofStem stem).headers (Entries.ofPairs ((ofStem stem).headers entries)) =
      Entries.ofPairs ((ofStem stem).headers entries) := by
  have hnames : ∀ e ∈ Entries.ofPairs ((ofStem stem).headers entries),
      e.1 ∈ ((ofStem stem).headers entries).map (·.1) := by
    intro e he
    rw [Entries.ofPairs, Entries.ofPairsBy_eq_firstPlaces] at he
    exact Entries.key_mem_of_mem_firstPlaces he
  exact headers_of_written hnames

end Echo

end Binder

/-- A binder that sets metadata takes a name that it wrote, in whatever case, for that name again. It
binds the dictionary of its headers to the entries of that dictionary, in one round and in any later
one. -/
theorem bind_settles {ε η ε' η' : Type} (stem : String) (r : HttpRequest ε η)
    (entries : List (String × String)) (q : HttpRequest ε' η') :
    let b := Binder.ofStem stem
    ∃ written : List Header,
      b.bind (some r) (.ofTexts entries) =
        .ok (r.replaceHeaders written, b.boundEntry entries.length) ∧
      (∀ echoed : List (String × String), (∀ e ∈ echoed, lowerText e.1 ∈ written.map (·.1)) →
        b.bind (some q) (.ofTexts echoed) =
          .ok (q.replaceHeaders (echoed.map fun e => (lowerText e.1, e.2)),
            b.boundEntry echoed.length)) ∧
      let items := Entries.firstPlaces (· == ·) [] written
      (b.bind (some q) (.ofHeaders written) =
          .ok (q.replaceHeaders items, b.boundEntry items.length)) ∧
        b.bind (some q) (.ofHeaders items) =
          .ok (q.replaceHeaders items, b.boundEntry items.length) := by
  intro b
  refine ⟨b.headers entries, b.bind_texts r entries, fun echoed h => ?_, ?_⟩
  · rw [b.bind_texts, Binder.headers_of_lowerText_mem h]
  · intro items
    have hitems : items = Entries.ofPairs (b.headers entries) :=
      (Entries.ofPairsBy_eq_firstPlaces _).symm
    have hround : b.bind (some q) (.ofTexts items) =
        .ok (q.replaceHeaders items, b.boundEntry items.length) := by
      rw [b.bind_texts, hitems, Binder.headers_ofPairs_headers]
    refine ⟨?_, ?_⟩
    · rw [Offered.ofHeaders_eq, ← hitems]
      exact hround
    · rw [Offered.ofHeaders_eq, hitems, Entries.ofPairs_ofPairs, ← hitems]
      exact hround

/-- Two spellings of a key give one name, under which the last value remains. -/
example : Entries.ofPairs ((Binder.ofStem "X-Meta-").headers [("Hue", "red"), ("x-meta-HUE", "blue")]) =
    [("x-meta-hue", "blue")] := by
  decide +kernel

end Courier.Metadata
