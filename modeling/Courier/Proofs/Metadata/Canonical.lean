import Courier.Proofs.Metadata.Header
import Courier.Proofs.Text.Lower
import Mathlib.Data.List.Forall2

/-! The names of bound headers are canonical: any binder writes one header for each entry, with its
name in lower case behind the lead of the mode. -/

namespace Courier.Metadata

/-- A header for an entry, with a name that stays the same in lower case. Of a key to be removed its
first character may be missing, since `x-remove` takes the place of one. -/
structure Canonical (stem : String) (mode : Mode) (entry : String × String) (header : Header) :
    Prop where
  isLower : lowerText header.1 = header.1
  set : mode = .set → lower stem.toList <+: header.1.toList ∧
    lower entry.1.toList <:+ header.1.toList ∧ header.2 = entry.2
  remove : mode = .remove → "x-remove".toList <+: header.1.toList ∧
    (lower entry.1.toList).tail <:+ header.1.toList ∧ header.2 = "ignored"

namespace Binder

variable (stem : String) (mode : Mode) (b : Binder) (key : String)

theorem stem_prefix_headerKey : b.stem <+: b.headerKey key := by
  simp only [headerKey, List.isPrefixOf_iff_prefix]
  split_ifs with h
  · exact h
  · exact List.prefix_append _ _

theorem key_suffix_headerKey : lower key.toList <:+ b.headerKey key := by
  simp only [headerKey]
  split_ifs
  · exact List.suffix_rfl
  · exact List.suffix_append _ _

theorem key_tail_suffix_headerKey : (lower key.toList).tail <:+ (b.headerKey key).drop 1 := by
  obtain ⟨before, hbefore⟩ := key_suffix_headerKey b key
  rw [← hbefore]
  cases before with
  | nil =>
    rw [List.nil_append]
    exact List.drop_one ▸ List.suffix_rfl
  | cons c r => exact (List.tail_suffix _).trans (List.suffix_append r _)

theorem isLower_headerKey : ∀ c ∈ (ofStem stem mode).headerKey key, IsLower c := by
  have hkey := isLower_of_mem_lower key.toList
  have hstem := isLower_of_mem_lower stem.toList
  intro c hc
  simp only [headerKey] at hc
  split_ifs at hc
  · exact hkey c hc
  · exact (List.mem_append.mp hc).elim (hstem c) (hkey c)

/-- Neither the cut nor `x-remove` puts a character in another case, since a text is in lower case
character by character. -/
theorem canonical_header (entry : String × String) :
    Canonical stem mode entry ((ofStem stem mode).header entry) := by
  have hkey := isLower_headerKey stem mode entry.1
  cases mode with
  | set =>
    have hname : ((ofStem stem .set).header entry).1.toList =
        (ofStem stem .set).headerKey entry.1 := String.toList_ofList
    refine ⟨?_, fun _ => ⟨?_, ?_, rfl⟩, nofun⟩
    · rw [lowerText_eq_self_iff, hname]
      exact hkey
    · rw [hname]
      exact stem_prefix_headerKey (ofStem stem .set) entry.1
    · rw [hname]
      exact key_suffix_headerKey (ofStem stem .set) entry.1
  | remove =>
    have hname : ((ofStem stem .remove).header entry).1.toList =
        "x-remove".toList ++ ((ofStem stem .remove).headerKey entry.1).drop 1 := String.toList_ofList
    have hlead : ∀ c ∈ "x-remove".toList, IsLower c := lower_eq_self_iff.mp (by decide +kernel)
    have htail := key_tail_suffix_headerKey (ofStem stem .remove) entry.1
    refine ⟨?_, nofun, fun _ => ⟨?_, ?_, rfl⟩⟩
    · rw [lowerText_eq_self_iff, hname]
      intro c hc
      exact (List.mem_append.mp hc).elim (hlead c) fun hc => hkey c (List.mem_of_mem_drop hc)
    · rw [hname]
      exact List.prefix_append _ _
    · rw [hname]
      exact List.suffix_append_of_suffix htail

theorem canonical_headers (entries : List (String × String)) :
    List.Forall₂ (Canonical stem mode) entries ((ofStem stem mode).headers entries) := by
  rw [headers, List.forall₂_map_right_iff, List.forall₂_same]
  exact fun entry _ => canonical_header stem mode entry

end Binder

end Courier.Metadata
