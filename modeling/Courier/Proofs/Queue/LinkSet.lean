import Courier.Queue.Link
import Mathlib.Data.List.Basic

/-! Sets of links. Members stand in a strict order, so that none is there twice. -/

namespace Courier

namespace Link

variable {a b c l m : Link}

theorem before_iff :
    a.before b = true ↔ a.relation < b.relation ∨ (a.relation = b.relation ∧ a.href < b.href) := by
  simp [before]

theorem not_before_self (a : Link) : ¬ a.before a = true := by
  rw [before_iff]
  rintro (h | ⟨-, h⟩)
  · exact String.lt_irrefl _ h
  · exact String.lt_irrefl _ h

theorem before_trans (hab : a.before b = true) (hbc : b.before c = true) : a.before c = true := by
  rw [before_iff] at hab hbc ⊢
  rcases hab with hab | ⟨hab, hab'⟩
  · rcases hbc with hbc | ⟨hbc, -⟩
    · exact .inl (String.lt_trans hab hbc)
    · exact .inl (hbc ▸ hab)
  · rcases hbc with hbc | ⟨hbc, hbc'⟩
    · exact .inl (hab ▸ hbc)
    · exact .inr ⟨hab.trans hbc, String.lt_trans hab' hbc'⟩

theorem before_total (h : a ≠ b) (hn : ¬ a.before b = true) : b.before a = true := by
  rw [before_iff, not_or, not_and] at hn
  rw [before_iff]
  rcases Std.lt_trichotomy a.relation b.relation with hr | hr | hr
  · exact (hn.1 hr).elim
  · rcases Std.lt_trichotomy a.href b.href with hh | hh | hh
    · exact (hn.2 hr hh).elim
    · obtain ⟨relation, href⟩ := a
      obtain ⟨relation', href'⟩ := b
      cases hr
      cases hh
      exact (h rfl).elim
    · exact .inr ⟨hr.symm, hh⟩
  · exact .inl hr

theorem mem_insert {ms : List Link} : l ∈ insert m ms ↔ l = m ∨ l ∈ ms := by
  induction ms with
  | nil => simp [insert]
  | cons k ms ih =>
    simp only [insert]
    split_ifs with he hb
    · simp [he]
    · simp
    · rw [List.mem_cons, ih, List.mem_cons]
      exact or_left_comm

theorem pairwise_insert {ms : List Link} (h : ms.Pairwise (·.before · = true)) :
    (insert m ms).Pairwise (·.before · = true) := by
  induction ms with
  | nil => simp [insert]
  | cons k ms ih =>
    have hk := List.pairwise_cons.mp h
    simp only [insert]
    split_ifs with he hb
    · exact h
    · refine List.pairwise_cons.mpr ⟨fun l hl => ?_, h⟩
      rcases List.mem_cons.mp hl with rfl | hl
      · exact hb
      · exact before_trans hb (hk.1 l hl)
    · refine List.pairwise_cons.mpr ⟨fun l hl => ?_, ih hk.2⟩
      rcases mem_insert.mp hl with rfl | hl
      · exact before_total he hb
      · exact hk.1 l hl

end Link

namespace LinkSet

theorem mem_ofList {l : Link} {ls : List Link} : l ∈ (ofList ls).toList ↔ l ∈ ls := by
  show l ∈ ls.foldr Link.insert [] ↔ l ∈ ls
  induction ls with
  | nil => rfl
  | cons m ls ih => rw [List.foldr_cons, Link.mem_insert, ih, List.mem_cons]

theorem pairwise_ofList (ls : List Link) : (ofList ls).toList.Pairwise (·.before · = true) := by
  show (ls.foldr Link.insert []).Pairwise (·.before · = true)
  induction ls with
  | nil => exact List.Pairwise.nil
  | cons m ls ih => exact Link.pairwise_insert ih

theorem nodup_ofList (ls : List Link) : (ofList ls).toList.Nodup := by
  refine List.Pairwise.imp ?_ (pairwise_ofList ls)
  rintro a _ h rfl
  exact Link.not_before_self a h

/-- A set does not depend on the order in which its members are put, nor on how often. -/
theorem ofList_congr {ls ms : List Link} (h : ∀ l, l ∈ ls ↔ l ∈ ms) : ofList ls = ofList ms := by
  have hmem : ∀ l, l ∈ (ofList ls).members ↔ l ∈ (ofList ms).members := fun l =>
    (mem_ofList.trans (h l)).trans mem_ofList.symm
  have hperm : (ofList ls).members.Perm (ofList ms).members :=
    (List.perm_ext_iff_of_nodup (nodup_ofList ls) (nodup_ofList ms)).mpr hmem
  have hanti : ∀ a b : Link, a ∈ (ofList ls).members → b ∈ (ofList ms).members →
      a.before b = true → b.before a = true → a = b := by
    intro a b _ _ hab hba
    exact (Link.not_before_self a (Link.before_trans hab hba)).elim
  have heq : (ofList ls).members = (ofList ms).members :=
    hperm.eq_of_pairwise hanti (pairwise_ofList ls) (pairwise_ofList ms)
  exact congrArg LinkSet.mk heq

end LinkSet

end Courier
