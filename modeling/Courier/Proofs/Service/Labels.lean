import Courier.Proofs.Text.Parts
import Courier.Service.Endpoint
import Mathlib.Data.List.DropRight

/-! Endpoints as labels, part by part: which parts are left out, and that nothing is left to leave out
once that has been done. -/

namespace Courier.Service

open Url

/-- Parts of an endpoint with the name of the queue left out. -/
def hideQueue : List (List Char) → List (List Char)
  | [] => []
  | [p] => [p]
  | p :: q :: ps =>
    if p = "queues".toList ∧ q ≠ [] then p :: "\x7bname\x7d".toList :: ps else p :: q :: ps

/-- Parts of an endpoint with the message ids left out. An id follows a part `messages` and ends at a
question mark; it announces no other id, whatever it is. -/
def hideIds : List (List Char) → List (List Char)
  | [] => []
  | [p] => [p]
  | p :: q :: ps =>
    if p = "messages".toList ∧ q.takeWhile isIdChar ≠ [] then
      p :: ("\x7bid\x7d".toList ++ q.dropWhile isIdChar) :: hideIds ps
    else p :: hideIds (q :: ps)

section Queue

theorem span_slash {q r : List Char} (hq : '/' ∉ q) (hr : ∀ c ∈ r.head?, c = '/') :
    (q ++ r).takeWhile (!isSlash ·) = q ∧ (q ++ r).dropWhile (!isSlash ·) = r := by
  have hname : ∀ c ∈ q, (!isSlash c) = true := by
    intro c hc
    have hslash : c ≠ '/' := fun he => hq (he ▸ hc)
    simp [isSlash, hslash]
  have hstop : ∀ c ∈ r.head?, (!isSlash c) = false := by
    intro c hc
    simp [isSlash, hr c hc]
  exact span_boundary hname hstop

theorem collapseQueue_name {q r : List Char} (hne : q ≠ []) (hq : '/' ∉ q)
    (hr : ∀ c ∈ r.head?, c = '/') :
    collapseQueue ("/queues/".toList ++ (q ++ r)) = "/queues/\x7bname\x7d".toList ++ r := by
  have hstarts : "/queues/".toList.isPrefixOf ("/queues/".toList ++ (q ++ r)) = true :=
    List.isPrefixOf_iff_prefix.mpr (List.prefix_append _ _)
  obtain ⟨htake, hdrop⟩ := span_slash hq hr
  simp only [collapseQueue, List.drop_left, htake, hdrop, hstarts, Bool.true_and]
  exact if_pos (by simpa using hne)

theorem collapseQueue_of_not {s : List Char}
    (h : ∀ t, s = "/queues/".toList ++ t → ∀ c ∈ t.head?, c = '/') : collapseQueue s = s := by
  rw [collapseQueue]
  refine if_neg fun hs => ?_
  obtain ⟨hp, hne⟩ := (Bool.and_eq_true _ _).mp hs
  obtain ⟨t, rfl⟩ := List.isPrefixOf_iff_prefix.mp hp
  rw [List.drop_left] at hne
  cases t with
  | nil => cases hne
  | cons c t =>
    obtain rfl : c = '/' := h _ rfl c rfl
    cases hne

theorem collapseQueue_slashed {ps : List (List Char)} (h : SlashFree ps) :
    collapseQueue (slashed ps) = slashed (hideQueue ps) := by
  have hqueues : '/' ∉ "queues".toList := by decide
  fun_cases hideQueue ps with
  | case1 => rfl
  | case2 p =>
    refine collapseQueue_of_not fun t ht => ?_
    obtain ⟨q, qs, he, -⟩ := slashed_eq_front hqueues h ht
    simp at he
  | case3 p q ps hpq =>
    obtain ⟨rfl, hq⟩ := hpq
    exact collapseQueue_name hq (h q (by simp)) head?_slashed
  | case4 p q ps hpq =>
    refine collapseQueue_of_not fun t ht => ?_
    obtain ⟨q', qs, he, rfl⟩ := slashed_eq_front hqueues h ht
    obtain ⟨rfl, rfl, rfl⟩ : p = _ ∧ q = q' ∧ ps = qs := by simpa using he
    have hq : q = [] := by simpa using hpq
    rw [hq]
    exact head?_slashed

end Queue

section Ids

theorem isIdChar_iff {c : Char} : isIdChar c = true ↔ c ≠ '/' ∧ c ≠ '?' := by
  simp [isIdChar]

theorem collapseIds_skip (skip : Nat) (s : List Char) :
    collapseIds skip s = collapseIds 0 (s.drop skip) := by
  induction skip generalizing s with
  | zero => rfl
  | succ skip ih =>
    cases s with
    | nil => rfl
    | cons c r => exact ih r

theorem collapseIds_keep {c : Char} {r : List Char}
    (h : ∀ t, c :: r = "/messages/".toList ++ t → t.takeWhile isIdChar = []) :
    collapseIds 0 (c :: r) = c :: collapseIds 0 r := by
  rw [collapseIds]
  by_cases hp : "/messages/".toList.isPrefixOf (c :: r) = true
  · obtain ⟨t, ht⟩ := List.isPrefixOf_iff_prefix.mp hp
    have hid : ((c :: r).drop "/messages/".toList.length).takeWhile isIdChar = [] := by
      rw [← ht, List.drop_left, h t ht.symm]
    simp only [hp, hid, if_true, List.isEmpty_nil]
  · exact if_neg hp

theorem collapseIds_id {i r : List Char} (hne : i ≠ []) (hi : ∀ c ∈ i, isIdChar c = true)
    (hr : ∀ c ∈ r.head?, isIdChar c = false) :
    collapseIds 0 ("/messages/".toList ++ (i ++ r)) =
      "/messages/\x7bid\x7d".toList ++ collapseIds 0 r := by
  have hstarts : "/messages/".toList.isPrefixOf ("/messages/".toList ++ (i ++ r)) = true :=
    List.isPrefixOf_iff_prefix.mpr (List.prefix_append _ _)
  have hid : (("/messages/".toList ++ (i ++ r)).drop "/messages/".toList.length).takeWhile
      isIdChar = i := by
    rw [List.drop_left, (span_boundary hi hr).1]
  have hrest : ("messages/".toList ++ (i ++ r)).drop ("/messages/".toList.length - 1 + i.length) =
      r := by
    rw [← List.append_assoc]
    exact List.drop_left' (by simp; omega)
  have hfront : "/messages/".toList ++ (i ++ r) = '/' :: ("messages/".toList ++ (i ++ r)) := rfl
  rw [hfront] at hstarts hid ⊢
  rw [collapseIds]
  simp only [hstarts, hid, if_true, List.isEmpty_iff, hne, if_false, collapseIds_skip _ (_ ++ _),
    hrest]

theorem collapseIds_part {p : List Char} (hp : '/' ∉ p) (r : List Char) :
    collapseIds 0 (p ++ r) = p ++ collapseIds 0 r := by
  induction p with
  | nil => rfl
  | cons c p ih =>
    obtain ⟨hc, hp⟩ := not_or.mp (mt List.mem_cons.mpr hp)
    rw [List.cons_append, collapseIds_keep, ih hp, List.cons_append]
    intro t ht
    exact (hc (List.cons.inj ht).1.symm).elim

/-- Behind its id a part is at an end, or has a mark. -/
theorem head?_behind_id (q : List Char) (ps : List (List Char)) :
    ∀ c ∈ (q.dropWhile isIdChar ++ slashed ps).head?, isIdChar c = false := by
  intro c hc
  cases hd : q.dropWhile isIdChar with
  | nil =>
    rw [hd, List.nil_append] at hc
    rw [head?_slashed c hc]
    rfl
  | cons d r =>
    have hstop := List.head?_dropWhile_not isIdChar q
    rw [hd] at hc hstop
    obtain rfl : d = c := by simpa using hc
    simpa using hstop

theorem takeWhile_part (q : List Char) (ps : List (List Char)) :
    (q ++ slashed ps).takeWhile isIdChar = q.takeWhile isIdChar := by
  have hid : ∀ c ∈ q.takeWhile isIdChar, isIdChar c = true := fun _ => List.mem_takeWhile_imp
  have hspan := span_boundary hid (head?_behind_id q ps)
  rw [← List.append_assoc, List.takeWhile_append_dropWhile] at hspan
  exact hspan.1

theorem collapseIds_slashed {ps : List (List Char)} (h : SlashFree ps) :
    collapseIds 0 (slashed ps) = slashed (hideIds ps) := by
  have hmessages : '/' ∉ "messages".toList := by decide
  fun_induction hideIds ps with
  | case1 => rfl
  | case2 p =>
    rw [slashed_cons, collapseIds_keep, collapseIds_part (h p (by simp))]
    · rfl
    · intro t ht
      obtain ⟨q, qs, he, -⟩ := slashed_eq_front hmessages h ht
      simp at he
  | case3 p q ps hpq ih =>
    obtain ⟨rfl, hne⟩ := hpq
    have hq : '/' ∉ q.dropWhile isIdChar :=
      fun hm => h q (by simp) ((List.dropWhile_suffix _).subset hm)
    -- The id is at an end within its part, and what is left of the part holds no other one.
    calc collapseIds 0 (slashed ("messages".toList :: q :: ps))
        = collapseIds 0 ("/messages/".toList ++
            (q.takeWhile isIdChar ++ (q.dropWhile isIdChar ++ slashed ps))) := by
          rw [← List.append_assoc (q.takeWhile _), List.takeWhile_append_dropWhile]
          rfl
      _ = "/messages/\x7bid\x7d".toList ++ collapseIds 0 (q.dropWhile isIdChar ++ slashed ps) :=
          collapseIds_id hne (fun _ => List.mem_takeWhile_imp) (head?_behind_id q ps)
      _ = slashed ("messages".toList :: ("\x7bid\x7d".toList ++ q.dropWhile isIdChar) ::
            hideIds ps) := by
          rw [collapseIds_part hq, ih fun p hp => h p (by simp [hp])]
          rfl
  | case4 p q ps hpq ih =>
    rw [slashed_cons, collapseIds_keep, collapseIds_part (h p (by simp)),
      ih fun p hp => h p (by simp [hp]), slashed_cons]
    intro t ht
    obtain ⟨q', qs, he, rfl⟩ := slashed_eq_front hmessages h ht
    obtain ⟨rfl, rfl, rfl⟩ : p = _ ∧ q = q' ∧ ps = qs := by simpa using he
    rw [takeWhile_part]
    simpa using hpq

end Ids

section Names

theorem hideIds_cons (p : List Char) (ps : List (List Char)) : ∃ qs, hideIds (p :: ps) = p :: qs := by
  cases ps with
  | nil => exact ⟨[], rfl⟩
  | cons q ps =>
    rw [hideIds]
    split_ifs
    · exact ⟨_, rfl⟩
    · exact ⟨_, rfl⟩

theorem hideIds_cons_of_ne {p : List Char} (hp : p ≠ "messages".toList) (ps : List (List Char)) :
    hideIds (p :: ps) = p :: hideIds ps := by
  cases ps with
  | nil => rfl
  | cons q ps => rw [hideIds, if_neg fun h => hp h.1]

/-- Something is left of what was something. -/
theorem hideIds_below (p q : List Char) (ps : List (List Char)) :
    ∃ r rs, hideIds (p :: q :: ps) = p :: r :: rs ∧ (q ++ slashed ps ≠ [] → r ++ slashed rs ≠ []) := by
  rw [hideIds]
  split_ifs
  · exact ⟨_, _, rfl, fun _ => by simp⟩
  · obtain ⟨rs, hrs⟩ := hideIds_cons q ps
    refine ⟨q, rs, by rw [hrs], fun h => ?_⟩
    by_cases hq : q = []
    · subst hq
      rw [hideIds_cons_of_ne (by decide), List.cons.injEq] at hrs
      cases ps with
      | nil => exact (h rfl).elim
      | cons s ps =>
        obtain ⟨ss, hss⟩ := hideIds_cons s ps
        simp [← hrs.2, hss]
    · simp [hq]

theorem hideIds_hideIds (ps : List (List Char)) : hideIds (hideIds ps) = hideIds ps := by
  fun_induction hideIds ps with
  | case1 => rfl
  | case2 => rfl
  | case3 p q ps hpq ih =>
    have hmark : ∀ c ∈ "\x7bid\x7d".toList, isIdChar c = true := List.all_eq_true.mp (by decide)
    have hbehind : ("\x7bid\x7d".toList ++ q.dropWhile isIdChar).dropWhile isIdChar =
        q.dropWhile isIdChar := by
      rw [List.dropWhile_append_of_pos hmark, List.dropWhile_idempotent]
    have hid : ("\x7bid\x7d".toList ++ q.dropWhile isIdChar).takeWhile isIdChar ≠ [] := by
      rw [List.takeWhile_append_of_pos hmark]
      exact List.append_ne_nil_of_left_ne_nil (by decide) _
    rw [hideIds, if_pos ⟨hpq.1, hid⟩, hbehind, ih]
  | case4 p q ps hpq ih =>
    obtain ⟨qs, hqs⟩ := hideIds_cons q ps
    rw [hqs] at ih ⊢
    rw [hideIds, if_neg hpq, ih]

/-- Leaving ids out gives no part that a queue's name would follow. -/
theorem hideQueue_hideIds (ps : List (List Char)) :
    hideQueue (hideIds (hideQueue ps)) = hideIds (hideQueue ps) := by
  fun_cases hideQueue ps with
  | case1 => rfl
  | case2 => rfl
  | case3 p q ps hpq =>
    obtain ⟨rfl, -⟩ := hpq
    obtain ⟨qs, hqs⟩ := hideIds_cons "\x7bname\x7d".toList ps
    rw [hideIds, if_neg (by decide), hqs, hideQueue, if_pos ⟨rfl, by decide⟩]
  | case4 p q ps hpq =>
    rw [hideIds]
    split_ifs with hid
    · -- The first part has to be `queues` for a name to follow, and here it is `messages`.
      obtain ⟨rfl, -⟩ := hid
      have hne : "messages".toList ≠ "queues".toList := by decide
      rw [hideQueue, if_neg fun h => hne h.1]
    · obtain ⟨qs, hqs⟩ := hideIds_cons q ps
      rw [hqs, hideQueue, if_neg hpq]

theorem slashFree_hideQueue {ps : List (List Char)} (h : SlashFree ps) :
    SlashFree (hideQueue ps) := by
  fun_cases hideQueue ps with
  | case1 => exact h
  | case2 => exact h
  | case3 p q ps hpq =>
    obtain ⟨hp, -, hps⟩ : '/' ∉ p ∧ '/' ∉ q ∧ SlashFree ps := by simpa using h
    have hname : '/' ∉ "\x7bname\x7d".toList := by decide
    exact slashFree_cons.mpr ⟨hp, slashFree_cons.mpr ⟨hname, hps⟩⟩
  | case4 => exact h

theorem slashFree_hideIds {ps : List (List Char)} (h : SlashFree ps) :
    SlashFree (hideIds ps) := by
  fun_induction hideIds ps with
  | case1 => exact h
  | case2 => exact h
  | case3 p q ps hpq ih =>
    obtain ⟨hp, hq, hps⟩ : '/' ∉ p ∧ '/' ∉ q ∧ SlashFree ps := by simpa using h
    have hbehind : '/' ∉ "\x7bid\x7d".toList ++ q.dropWhile isIdChar := by
      rw [List.mem_append, not_or]
      exact ⟨by decide, fun hm => hq ((List.dropWhile_suffix _).subset hm)⟩
    exact slashFree_cons.mpr ⟨hp, slashFree_cons.mpr ⟨hbehind, ih hps⟩⟩
  | case4 p q ps hpq ih =>
    obtain ⟨hp, hps⟩ := slashFree_cons.mp h
    exact slashFree_cons.mpr ⟨hp, ih hps⟩

/-- An endpoint with its names and ids left out. -/
def collapseNames (s : List Char) : List Char := collapseIds 0 (collapseQueue s)

theorem collapseNames_slashed {ps : List (List Char)} (h : SlashFree ps) :
    collapseNames (slashed ps) = slashed (hideIds (hideQueue ps)) := by
  rw [collapseNames, collapseQueue_slashed h, collapseIds_slashed (slashFree_hideQueue h)]

theorem hideQueue_cons (p : List Char) (ps : List (List Char)) :
    ∃ qs, hideQueue (p :: ps) = p :: qs := by
  cases ps with
  | nil => exact ⟨[], rfl⟩
  | cons q ps =>
    rw [hideQueue]
    split_ifs
    · exact ⟨_, rfl⟩
    · exact ⟨_, rfl⟩

/-- The first part of an endpoint always shows. -/
theorem collapseNames_first {p : List Char} {ps : List (List Char)} (h : SlashFree (p :: ps)) :
    ∃ qs, collapseNames (slashed (p :: ps)) = slashed (p :: qs) := by
  obtain ⟨rs, hrs⟩ := hideQueue_cons p ps
  obtain ⟨qs, hqs⟩ := hideIds_cons p rs
  exact ⟨qs, by rw [collapseNames_slashed h, hrs, hqs]⟩

theorem collapseNames_part {p : List Char} {ps : List (List Char)} (hne : p ≠ []) (hp : '/' ∉ p)
    (h : SlashFree ps) : collapseNames (p ++ slashed ps) = p ++ slashed (hideIds ps) := by
  have hfirst : collapseQueue (p ++ slashed ps) = p ++ slashed ps := by
    refine collapseQueue_of_not fun t ht => ?_
    obtain ⟨c, r, rfl⟩ := List.exists_cons_of_ne_nil hne
    obtain rfl : c = '/' := (List.cons.inj ht).1
    exact (hp List.mem_cons_self).elim
  rw [collapseNames, hfirst, collapseIds_part hp, collapseIds_slashed h]

theorem collapseNames_collapseNames (s : List Char) :
    collapseNames (collapseNames s) = collapseNames s := by
  obtain ⟨p, ps, -, rfl, hp, hps⟩ := exists_parts s
  by_cases hne : p = []
  · subst hne
    have hhidden := slashFree_hideIds (slashFree_hideQueue hps)
    rw [List.nil_append, collapseNames_slashed hps, collapseNames_slashed hhidden,
      hideQueue_hideIds, hideIds_hideIds]
  · rw [collapseNames_part hne hp hps, collapseNames_part hne hp (slashFree_hideIds hps),
      hideIds_hideIds]

end Names

section Placeholders

/-- What an endpoint is labelled that no queue's path is taken for. -/
def collapsePlace (s : List Char) : List Char := collapseContainer (collapseObject s)

/-- The labels that hold nothing of their endpoint. -/
def plainLabels : List (List Char) :=
  ["/", "/\x7bcontainer\x7d", "/\x7bcontainer\x7d/\x7bobject\x7d",
    "/\x7bcontainer\x7d/\x7bobject\x7d\n"].map String.toList

theorem endOfLine?_eq_some {s tail : List Char} (h : endOfLine? s = some tail) :
    s = tail ∧ (tail = [] ∨ tail = ['\n']) := by
  unfold endOfLine? at h
  split at h
  · cases h
    exact ⟨rfl, .inl rfl⟩
  · cases h
    exact ⟨rfl, .inr rfl⟩
  · cases h

theorem collapseObject_cases (s : List Char) :
    collapseObject s = s ∨ collapseObject s ∈ plainLabels := by
  unfold collapseObject
  split
  · dsimp only
    split_ifs
    · exact .inl rfl
    · split
      · rename_i tail htail
        obtain ⟨-, rfl | rfl⟩ := endOfLine?_eq_some htail
        · exact .inr (by decide)
        · exact .inr (by decide)
      · exact .inl rfl
  · exact .inl rfl

theorem collapseContainer_cases (s : List Char) :
    collapseContainer s = s ∨ collapseContainer s ∈ plainLabels := by
  unfold collapseContainer
  split
  · split_ifs
    · exact .inr (by decide)
    · exact .inl rfl
  · exact .inl rfl

theorem collapsePlace_cases (s : List Char) :
    collapsePlace s = s ∨ collapsePlace s ∈ plainLabels := by
  rcases collapseContainer_cases (collapseObject s) with hc | hc
  · rw [collapsePlace, hc]
    exact collapseObject_cases s
  · exact .inr hc

end Placeholders

section Normal

/-- An endpoint that is its own label once names and ids are left out of it. -/
structure Settled (s : List Char) : Prop where
  names : collapseNames s = s
  place : "/queues".toList <+: s ∨ collapsePlace s = s
  ne_nil : s ≠ []

theorem ne_nil_of_queues {s : List Char} (h : "/queues".toList <+: s) : s ≠ [] :=
  h.ne_nil (by decide)

theorem normalizeChars_queues {s : List Char} (h : "/queues".toList <+: collapseNames s) :
    normalizeChars s = collapseNames s := by
  have hp := List.isPrefixOf_iff_prefix.mpr h
  have hne := ne_nil_of_queues h
  simp only [normalizeChars, collapseNames] at hp hne ⊢
  rw [if_pos hp, if_neg (by simpa using hne)]

theorem normalizeChars_other {s : List Char} (h : ¬ "/queues".toList <+: collapseNames s) :
    normalizeChars s = if (collapsePlace (collapseNames s)).isEmpty then ['/']
      else collapsePlace (collapseNames s) := by
  have hp := mt List.isPrefixOf_iff_prefix.mp h
  simp only [normalizeChars, collapseNames, collapsePlace] at hp ⊢
  rw [if_neg hp]
  rfl

theorem normalizeChars_of_settled {s : List Char} (h : Settled s) : normalizeChars s = s := by
  by_cases hq : "/queues".toList <+: s
  · rw [normalizeChars_queues (by rwa [h.names]), h.names]
  · have hplace := h.place.resolve_left hq
    rw [normalizeChars_other (by rwa [h.names]), h.names, hplace,
      if_neg (by simpa using h.ne_nil)]

theorem normalizeChars_cases (s : List Char) :
    normalizeChars s ∈ plainLabels ∨ Settled (normalizeChars s) := by
  have hnames := collapseNames_collapseNames s
  by_cases hq : "/queues".toList <+: collapseNames s
  · rw [normalizeChars_queues hq]
    exact .inr ⟨hnames, .inl hq, ne_nil_of_queues hq⟩
  · rw [normalizeChars_other hq]
    split_ifs with he
    · exact .inl (by decide)
    · rcases collapsePlace_cases (collapseNames s) with h | h
      · rw [h] at he ⊢
        exact .inr ⟨hnames, .inr h, by simpa using he⟩
      · exact .inl h

theorem normalizeChars_normalizeChars (s : List Char) :
    normalizeChars (normalizeChars s) = normalizeChars s := by
  rcases normalizeChars_cases s with h | h
  · have hplain : ∀ l ∈ plainLabels, normalizeChars l = l := by decide +kernel
    exact hplain _ h
  · exact normalizeChars_of_settled h

theorem normalizeChars_ne_nil (s : List Char) : normalizeChars s ≠ [] := by
  rcases normalizeChars_cases s with h | h
  · have hplain : ∀ l ∈ plainLabels, l ≠ [] := by decide
    exact hplain _ h
  · exact h.ne_nil

end Normal

/-- A label is its own label, and never empty. -/
theorem normalizeEndpoint_idempotent (e : String) :
    normalizeEndpoint (normalizeEndpoint e) = normalizeEndpoint e ∧ normalizeEndpoint e ≠ "" := by
  constructor
  · simp only [normalizeEndpoint, String.toList_ofList, normalizeChars_normalizeChars]
  · intro h
    apply normalizeChars_ne_nil e.toList
    have hlist := congrArg String.toList h
    simpa [normalizeEndpoint] using hlist

end Courier.Service
