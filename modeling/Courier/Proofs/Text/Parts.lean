import Mathlib.Data.List.Basic

/-! Texts cut at a boundary: the longest front of one kind, and the parts between slashes, of which each
but the first has a slash in front of it. -/

namespace Courier

theorem span_boundary {f : Char → Bool} {p r : List Char} (hp : ∀ c ∈ p, f c = true)
    (hr : ∀ c ∈ r.head?, f c = false) :
    (p ++ r).takeWhile f = p ∧ (p ++ r).dropWhile f = r := by
  rw [List.takeWhile_append_of_pos hp, List.dropWhile_append_of_pos hp]
  cases r with
  | nil => simp
  | cons c r =>
    have hc : f c = false := hr c rfl
    simp [hc]

theorem span_mark {mark : Char} {p r : List Char} (hp : mark ∉ p) (hr : ∀ c ∈ r.head?, c = mark) :
    (p ++ r).takeWhile (· ≠ mark) = p ∧ (p ++ r).dropWhile (· ≠ mark) = r := by
  have hkeep : ∀ c ∈ p, decide (c ≠ mark) = true := by
    intro c hc
    rw [decide_eq_true_eq]
    rintro rfl
    exact hp hc
  have hstop : ∀ c ∈ r.head?, decide (c ≠ mark) = false := by
    intro c hc
    simp [hr c hc]
  exact span_boundary hkeep hstop

theorem span_of_notMem {mark : Char} {p : List Char} (hp : mark ∉ p) :
    p.takeWhile (· ≠ mark) = p ∧ p.dropWhile (· ≠ mark) = [] := by
  have hspan := span_mark (r := []) hp (by simp)
  rwa [List.append_nil] at hspan

namespace Url

/-- A text that can be a part of a path. -/
def IsPart (s : String) : Prop := s ≠ "" ∧ '/' ∉ s.toList

instance : DecidablePred IsPart := fun s => inferInstanceAs (Decidable (s ≠ "" ∧ '/' ∉ s.toList))

def slashed (ps : List (List Char)) : List Char := ps.flatMap ('/' :: ·)

@[simp]
theorem slashed_nil : slashed [] = [] := rfl

@[simp]
theorem slashed_cons (p : List Char) (ps : List (List Char)) :
    slashed (p :: ps) = '/' :: (p ++ slashed ps) := rfl

/-- Parts that hold no slash themselves. -/
def SlashFree (ps : List (List Char)) : Prop := ∀ p ∈ ps, '/' ∉ p

instance (ps : List (List Char)) : Decidable (SlashFree ps) :=
  inferInstanceAs (Decidable (∀ p ∈ ps, '/' ∉ p))

@[simp]
theorem slashFree_cons {p : List Char} {ps : List (List Char)} :
    SlashFree (p :: ps) ↔ '/' ∉ p ∧ SlashFree ps :=
  List.forall_mem_cons

theorem head?_slashed {ps : List (List Char)} : ∀ c ∈ (slashed ps).head?, c = '/' := by
  cases ps with
  | nil => simp
  | cons p ps => simp

theorem mem_slashed {c : Char} (hc : c ≠ '/') {ps : List (List Char)} :
    c ∈ slashed ps ↔ ∃ p ∈ ps, c ∈ p := by
  simp [slashed, hc]

theorem prefix_part_iff {a : List Char} (ha : '/' ∉ a) (p : List Char) (ps : List (List Char)) :
    a <+: p ++ slashed ps ↔ a <+: p := by
  constructor
  · intro h
    rcases List.prefix_or_prefix_of_prefix h (List.prefix_append p _) with hp | ⟨r, rfl⟩
    · exact hp
    · have hr : r <+: slashed ps := (List.prefix_append_right_inj p).mp h
      cases r with
      | nil => simp
      | cons c r =>
        have hc : c = '/' := by
          obtain ⟨t, ht⟩ := hr
          apply head?_slashed c
          rw [← ht]
          rfl
        subst hc
        exact (ha (by simp)).elim
  · exact fun h => h.trans (List.prefix_append p _)

theorem slash_split {a b s t : List Char} (ha : '/' ∉ a) (hb : '/' ∉ b)
    (h : a ++ '/' :: s = b ++ '/' :: t) : a = b ∧ s = t := by
  have hlen : a.length = b.length := by
    have hfirst := congrArg (List.idxOf '/') h
    simpa [List.idxOf_append_of_notMem ha, List.idxOf_append_of_notMem hb] using hfirst
  obtain ⟨hab, hst⟩ := List.append_inj h hlen
  exact ⟨hab, (List.cons.inj hst).2⟩

/-- A first part with a slash behind it is the first part of all. -/
theorem slashed_eq_front {a t : List Char} {ps : List (List Char)} (ha : '/' ∉ a)
    (hps : SlashFree ps) (h : slashed ps = '/' :: (a ++ '/' :: t)) :
    ∃ q qs, ps = a :: q :: qs ∧ t = q ++ slashed qs := by
  cases ps with
  | nil => cases h
  | cons p ps =>
    rw [slashed_cons, List.cons.injEq] at h
    obtain ⟨-, h⟩ := h
    obtain ⟨hp, -⟩ := slashFree_cons.mp hps
    cases ps with
    | nil =>
      rw [slashed_nil, List.append_nil] at h
      exact (hp (by simp [h])).elim
    | cons q qs =>
      obtain ⟨rfl, rfl⟩ := slash_split hp ha h
      exact ⟨q, qs, rfl, rfl⟩

theorem intercalate_slash (p : List Char) (ps : List (List Char)) :
    ['/'].intercalate (p :: ps) = p ++ slashed ps := by
  induction ps generalizing p with
  | nil => simp
  | cons q ps ih => simp [ih q]

theorem slash_notMem_of_mem_splitOn {s p : List Char} (h : p ∈ s.splitOn '/') : '/' ∉ p := by
  induction s generalizing p with
  | nil =>
    have hp : p = [] := by simpa using h
    simp [hp]
  | cons c s ih =>
    rw [List.splitOn_cons_eq_if_modifyHead] at h
    by_cases hc : c = '/'
    · simp only [hc, beq_self_eq_true, if_true, List.mem_cons] at h
      rcases h with rfl | h
      · exact List.not_mem_nil
      · exact ih h
    · obtain ⟨q, qs, hq⟩ := List.exists_cons_of_ne_nil (List.splitOn_ne_nil '/' s)
      rw [if_neg (by simpa using hc), hq, List.modifyHead_cons, List.mem_cons] at h
      rw [hq] at ih
      rcases h with rfl | h
      · have hne := ih List.mem_cons_self
        simpa [hne] using Ne.symm hc
      · exact ih (List.mem_cons_of_mem _ h)

theorem exists_parts (s : List Char) :
    ∃ p ps, s.splitOn '/' = p :: ps ∧ s = p ++ slashed ps ∧ '/' ∉ p ∧ SlashFree ps := by
  obtain ⟨p, ps, h⟩ := List.exists_cons_of_ne_nil (List.splitOn_ne_nil '/' s)
  have hs : ['/'].intercalate (s.splitOn '/') = s := List.intercalate_splitOn '/'
  have hparts : SlashFree (p :: ps) := fun q hq => slash_notMem_of_mem_splitOn (h ▸ hq)
  rw [h, intercalate_slash] at hs
  exact ⟨p, ps, h, hs.symm, slashFree_cons.mp hparts⟩

theorem exists_slashed {r : List Char} (h : ∀ c ∈ r.head?, c = '/') :
    ∃ ps, r = slashed ps ∧ SlashFree ps := by
  obtain ⟨p, ps, -, rfl, hp, hps⟩ := exists_parts r
  cases p with
  | nil => exact ⟨ps, rfl, hps⟩
  | cons c p =>
    obtain rfl : c = '/' := h c rfl
    exact (hp List.mem_cons_self).elim

end Url

end Courier
