import Courier.Entries
import Mathlib.Data.List.Nodup

/-! Dictionaries put together pair by pair. Each key stands where it came first, with the value that
came last under it. -/

namespace Courier.Entries

variable {κ ν : Type}

/-- The value that comes last under a key, after a first one and among later pairs. -/
def lastUnder (same : κ → κ → Bool) (k : κ) (v : ν) (later : List (κ × ν)) : ν :=
  later.foldl (fun w p => if same p.1 k then p.2 else w) v

/-- Of pairs those whose key is new, each with the value that comes last under it. -/
def firstPlaces (same : κ → κ → Bool) (known : List κ) : List (κ × ν) → Entries κ ν
  | [] => []
  | (k, v) :: ps =>
    if known.any (same k) then firstPlaces same known ps
    else (k, lastUnder same k v ps) :: firstPlaces same (known ++ [k]) ps

section Places

variable {same : κ → κ → Bool}

@[simp]
theorem lastUnder_nil (k : κ) (v : ν) : lastUnder same k v [] = v := rfl

@[simp]
theorem lastUnder_cons (k : κ) (v : ν) (p : κ × ν) (ps : List (κ × ν)) :
    lastUnder same k v (p :: ps) = lastUnder same k (if same p.1 k then p.2 else v) ps := rfl

theorem any_keys (es : Entries κ ν) (k : κ) : (es.map (·.1)).any (same k) = es.any (same k ·.1) :=
  List.any_map

theorem putBy_known {es : Entries κ ν} {k : κ} (v : ν) (h : es.any (same k ·.1) = true) :
    putBy same es k v = es.map fun e => (e.1, if same k e.1 then v else e.2) := by
  rw [putBy, if_pos h]
  apply List.map_congr_left
  intro e _
  split_ifs <;> rfl

theorem putBy_new {es : Entries κ ν} {k : κ} (v : ν) (h : es.any (same k ·.1) = false) :
    putBy same es k v = es ++ [(k, v)] := by
  rw [putBy, h]
  rfl

/-- Putting further pairs changes the values of the entries that are there and adds the pairs with a
new key behind them. -/
theorem foldl_putBy_eq (es : Entries κ ν) (ps : List (κ × ν)) :
    ps.foldl (fun es p => es.putBy same p.1 p.2) es =
      es.map (fun e => (e.1, lastUnder same e.1 e.2 ps)) ++ firstPlaces same (es.map (·.1)) ps := by
  induction ps generalizing es with
  | nil => simp [firstPlaces]
  | cons p ps ih =>
    obtain ⟨k, v⟩ := p
    rw [List.foldl_cons, ih]
    cases hk : es.any (same k ·.1) with
    | true =>
      rw [putBy_known v hk, firstPlaces, any_keys, if_pos hk, List.map_map, List.map_map]
      rfl
    | false =>
      have hold : es.map (fun e => (e.1, lastUnder same e.1 e.2 ((k, v) :: ps))) =
          es.map (fun e => (e.1, lastUnder same e.1 e.2 ps)) := by
        apply List.map_congr_left
        intro e he
        have hne : same k e.1 = false := by simpa using List.any_eq_false.mp hk e he
        simp [hne]
      rw [putBy_new v hk, hold, firstPlaces, any_keys, hk]
      simp

theorem ofPairsBy_eq_firstPlaces (ps : List (κ × ν)) : ofPairsBy same ps = firstPlaces same [] ps :=
  foldl_putBy_eq [] ps

theorem key_mem_of_mem_firstPlaces {known : List κ} {ps : List (κ × ν)} {e : κ × ν}
    (h : e ∈ firstPlaces same known ps) : e.1 ∈ ps.map (·.1) := by
  fun_induction firstPlaces same known ps with
  | case1 => cases h
  | case2 known k v ps hk ih => exact List.mem_cons_of_mem _ (ih h)
  | case3 known k v ps hk ih =>
    rcases List.mem_cons.mp h with rfl | h
    · exact List.mem_cons_self
    · exact List.mem_cons_of_mem _ (ih h)

end Places

section Renamed

variable {κ' ν' : Type} {same : κ → κ → Bool} {same' : κ' → κ' → Bool} (f : κ → κ') (g : ν → ν')
  (hf : ∀ j k, same' (f j) (f k) = same j k)

include hf

theorem putBy_map (es : Entries κ ν) (k : κ) (v : ν) :
    putBy same' (es.map fun e => (f e.1, g e.2)) (f k) (g v) =
      (es.putBy same k v).map fun e => (f e.1, g e.2) := by
  have hany : (es.map fun e => (f e.1, g e.2)).any (same' (f k) ·.1) = es.any (same k ·.1) := by
    simp [List.any_map, Function.comp_def, hf]
  cases hk : es.any (same k ·.1) with
  | true =>
    rw [putBy_known _ (hany.trans hk), putBy_known _ hk, List.map_map, List.map_map]
    apply List.map_congr_left
    intro e _
    simp [hf, apply_ite g]
  | false =>
    rw [putBy_new _ (hany.trans hk), putBy_new _ hk]
    simp

theorem foldl_putBy_map (es : Entries κ ν) (ps : List (κ × ν)) :
    (ps.map fun p => (f p.1, g p.2)).foldl (fun es p => putBy same' es p.1 p.2)
        (es.map fun e => (f e.1, g e.2)) =
      (ps.foldl (fun es p => es.putBy same p.1 p.2) es).map fun e => (f e.1, g e.2) := by
  induction ps generalizing es with
  | nil => rfl
  | cons p ps ih => rw [List.map_cons, List.foldl_cons, List.foldl_cons, putBy_map f g hf, ih]

/-- Keys that are the same exactly when they were before make a dictionary in the same places. -/
theorem ofPairsBy_map (ps : List (κ × ν)) :
    ofPairsBy same' (ps.map fun p => (f p.1, g p.2)) =
      (ofPairsBy same ps).map fun p => (f p.1, g p.2) :=
  foldl_putBy_map f g hf [] ps

end Renamed

section Lawful

variable [BEq κ] [LawfulBEq κ]

theorem firstPlaces_keys_nodup (known : List κ) (ps : List (κ × ν)) (h : known.Nodup) :
    (known ++ (firstPlaces (· == ·) known ps).map (·.1)).Nodup := by
  -- The keys known before belong to the invariant: a new one joins them before the next is judged.
  fun_induction firstPlaces (· == ·) known ps with
  | case1 known => simpa using h
  | case2 known k v ps hk ih => exact ih h
  | case3 known k v ps hk ih =>
    have hnew : k ∉ known := by simpa using hk
    have hknown : (known ++ [k]).Nodup := by
      simpa [List.nodup_append] using ⟨h, fun a ha => ne_of_mem_of_not_mem ha hnew⟩
    simpa using ih hknown

theorem ofPairs_keys_nodup (ps : List (κ × ν)) : ((ofPairs ps).map (·.1)).Nodup := by
  have hnodup := firstPlaces_keys_nodup [] ps List.nodup_nil
  rwa [List.nil_append, ← ofPairsBy_eq_firstPlaces] at hnodup

theorem foldl_put_of_nodup (es ps : Entries κ ν) (h : ((es ++ ps).map (·.1)).Nodup) :
    ps.foldl (fun es p => es.putBy (· == ·) p.1 p.2) es = es ++ ps := by
  induction ps generalizing es with
  | nil => simp
  | cons p ps ih =>
    have hnew : es.any (p.1 == ·.1) = false := by
      rw [List.any_eq_false]
      intro e he hp
      rw [List.map_append, List.nodup_append] at h
      exact h.2.2 e.1 (List.mem_map_of_mem he) p.1 (by simp) (eq_of_beq hp).symm
    rw [List.foldl_cons, putBy_new p.2 hnew, ih _ (by simpa using h), List.append_assoc,
      List.singleton_append]

theorem ofPairs_of_nodup {ps : List (κ × ν)} (h : (ps.map (·.1)).Nodup) : ofPairs ps = ps :=
  foldl_put_of_nodup [] ps h

theorem ofPairs_ofPairs (ps : List (κ × ν)) : ofPairs (ofPairs ps) = ofPairs ps :=
  ofPairs_of_nodup (ofPairs_keys_nodup ps)

end Lawful

section Lookup

variable [BEq κ] {es more : Entries κ ν} {j k : κ} {v : ν}

@[simp]
theorem get?_nil : get? ([] : Entries κ ν) k = none := rfl

theorem get?_cons : get? ((j, v) :: es) k = if k == j then some v else es.get? k := by
  cases hk : k == j <;> simp [get?, hk]

theorem get?_append : (es ++ more).get? k = (es.get? k).or (more.get? k) := by
  simp [get?, List.find?_append, Option.map_or]

theorem get?_eq_none_iff : es.get? k = none ↔ es.any (k == ·.1) = false := by
  simp [get?, List.find?_eq_none]

theorem get?_map {ν' : Type} (f : ν → ν') (es : Entries κ ν) :
    get? (es.map fun e => (e.1, f e.2)) k = (es.get? k).map f := by
  induction es with
  | nil => rfl
  | cons e es ih =>
    obtain ⟨j, w⟩ := e
    rw [List.map_cons, get?_cons, get?_cons, ih]
    split_ifs <;> rfl

variable [LawfulBEq κ]

theorem get?_eq_none_of_notMem (h : k ∉ es.map (·.1)) : es.get? k = none := by
  rw [get?_eq_none_iff, ← any_keys, List.any_eq_false]
  intro j hj hkj
  exact h (eq_of_beq hkj ▸ hj)

theorem get?_eq_some_of_mem (hnodup : (es.map (·.1)).Nodup) (h : (k, v) ∈ es) :
    es.get? k = some v := by
  induction es with
  | nil => cases h
  | cons e es ih =>
    obtain ⟨j, w⟩ := e
    rw [List.map_cons, List.nodup_cons] at hnodup
    rw [get?_cons]
    rcases List.mem_cons.mp h with he | he
    · cases he
      simp
    · have hne : k ≠ j := ne_of_mem_of_not_mem (List.mem_map_of_mem (f := (·.1)) he) hnodup.1
      rw [if_neg (by simpa using hne)]
      exact ih hnodup.2 he

theorem get?_map_replace (es : Entries κ ν) (j k : κ) (v : ν) :
    get? (es.map fun e => (e.1, if j == e.1 then v else e.2)) k =
      if k == j then (es.get? k).map fun _ => v else es.get? k := by
  induction es with
  | nil => simp
  | cons e es ih =>
    obtain ⟨i, w⟩ := e
    rw [List.map_cons, get?_cons, get?_cons, ih]
    by_cases hki : k = i
    · subst hki
      by_cases hkj : k = j
      · simp [hkj]
      · simp [hkj, Ne.symm hkj]
    · simp [hki]

theorem get?_put (es : Entries κ ν) (j k : κ) (v : ν) :
    (es.put j v).get? k = if k == j then some v else es.get? k := by
  cases hj : es.any (j == ·.1) with
  | false =>
    have hnone : es.get? j = none := get?_eq_none_iff.mpr hj
    rw [put, putBy_new v hj, get?_append, get?_cons, get?_nil]
    by_cases hk : k = j
    · subst hk
      simp [hnone]
    · simp [hk]
  | true =>
    have hsome : es.get? j ≠ none := fun hnone => by simp [get?_eq_none_iff.mp hnone] at hj
    obtain ⟨w, hw⟩ := Option.ne_none_iff_exists'.mp hsome
    rw [put, putBy_known v hj, get?_map_replace]
    by_cases hk : k = j
    · subst hk
      simp [hw]
    · simp [hk]

theorem get?_putNew (es : Entries κ ν) (j k : κ) (v : ν) :
    (es.putNew j v).get? k = (es.get? k).or (if k == j then some v else none) := by
  cases hj : es.any (j == ·.1) with
  | false => rw [putNew, hj, if_neg Bool.false_ne_true, get?_append, get?_cons, get?_nil]
  | true =>
    have hsome : es.get? j ≠ none := fun hnone => by simp [get?_eq_none_iff.mp hnone] at hj
    obtain ⟨w, hw⟩ := Option.ne_none_iff_exists'.mp hsome
    rw [putNew, if_pos hj]
    by_cases hk : k = j
    · subst hk
      simp [hw]
    · simp [hk]

theorem get?_update (es : Entries κ ν) (hnodup : (more.map (·.1)).Nodup) (k : κ) :
    (es.update more).get? k = (more.get? k).or (es.get? k) := by
  induction more generalizing es with
  | nil => rfl
  | cons p more ih =>
    obtain ⟨j, v⟩ := p
    rw [List.map_cons, List.nodup_cons] at hnodup
    have hrest : (es.update ((j, v) :: more)).get? k = ((es.put j v).update more).get? k := rfl
    rw [hrest, ih _ hnodup.2, get?_put, get?_cons]
    by_cases hk : k = j
    · subst hk
      simp [get?_eq_none_of_notMem hnodup.1]
    · simp [hk]

theorem get?_foldl_putNew (es more : Entries κ ν) (k : κ) :
    get? (more.foldl (fun es p => es.putNew p.1 p.2) es) k = (es.get? k).or (more.get? k) := by
  induction more generalizing es with
  | nil => simp
  | cons p more ih =>
    obtain ⟨j, v⟩ := p
    rw [List.foldl_cons, ih, get?_putNew, get?_cons, Option.or_assoc]
    split_ifs <;> rfl

theorem get?_remove (es : Entries κ ν) (j k : κ) :
    (es.remove j).get? k = if k == j then none else es.get? k := by
  induction es with
  | nil => simp [remove]
  | cons e es ih =>
    obtain ⟨i, w⟩ := e
    have hstep : remove ((i, w) :: es) j =
        if j == i then remove es j else (i, w) :: remove es j := by
      cases hji : j == i <;> simp [remove, hji]
    rw [hstep, get?_cons]
    by_cases hji : j = i
    · subst hji
      rw [if_pos (beq_self_eq_true j), ih]
      split_ifs <;> rfl
    · rw [if_neg (by simpa using hji), get?_cons, ih]
      by_cases hki : k = i
      · subst hki
        simp [Ne.symm hji]
      · simp [hki]

theorem get?_foldl_put (es : Entries κ ν) (ps : List (κ × ν)) (k : κ) :
    get? (ps.foldl (fun es p => es.putBy (· == ·) p.1 p.2) es) k =
      ((ps.filter (k == ·.1)).getLast?.map (·.2)).or (es.get? k) := by
  induction ps generalizing es with
  | nil => simp
  | cons p ps ih =>
    have hput : get? (es.putBy (· == ·) p.1 p.2) k = if k == p.1 then some p.2 else es.get? k :=
      get?_put es p.1 k p.2
    rw [List.foldl_cons, ih, hput]
    cases hk : k == p.1 with
    | false => rw [List.filter_cons_of_neg (by simp [hk]), if_neg Bool.false_ne_true]
    | true =>
      have hcons : (p :: ps).filter (k == ·.1) = p :: ps.filter (k == ·.1) :=
        List.filter_cons_of_pos hk
      rw [hcons, if_pos rfl, List.getLast?_cons]
      cases (ps.filter (k == ·.1)).getLast? <;> rfl

theorem get?_ofPairs (ps : List (κ × ν)) (k : κ) :
    (ofPairs ps).get? k = (ps.filter (k == ·.1)).getLast?.map (·.2) := by
  have hfold := get?_foldl_put [] ps k
  rwa [get?_nil, Option.or_none] at hfold

theorem filter_put (p : κ → Bool) (es : Entries κ ν) (k : κ) (v : ν) :
    (es.putBy (· == ·) k v).filter (fun e => p e.1) =
      if p k then putBy (· == ·) (es.filter fun e => p e.1) k v else es.filter fun e => p e.1 := by
  have hany : p k = true → (es.filter fun e => p e.1).any (k == ·.1) = es.any (k == ·.1) := by
    intro hp
    rw [List.any_filter]
    congr 1
    funext e
    cases hk : k == e.1 with
    | false => simp
    | true => simp [← eq_of_beq hk, hp]
  cases hk : es.any (k == ·.1) with
  | false =>
    rw [putBy_new v hk, List.filter_append]
    cases hp : p k with
    | false => simp [hp]
    | true =>
      rw [if_pos rfl, putBy_new v ((hany hp).trans hk)]
      simp [hp]
  | true =>
    rw [putBy_known v hk, List.filter_map]
    have hsame : (es.filter ((fun e => p e.1) ∘ fun e => (e.1, if k == e.1 then v else e.2))) =
        es.filter fun e => p e.1 := rfl
    rw [hsame]
    cases hp : p k with
    | false =>
      rw [if_neg Bool.false_ne_true]
      conv_rhs => rw [← List.map_id (es.filter fun e => p e.1)]
      apply List.map_congr_left
      intro e he
      have hne : (k == e.1) = false := by
        rw [beq_eq_false_iff_ne]
        rintro rfl
        rw [(List.mem_filter.mp he).2] at hp
        cases hp
      simp [hne]
    | true => rw [if_pos rfl, putBy_known v ((hany hp).trans hk)]

theorem filter_ofPairs (p : κ → Bool) (ps : List (κ × ν)) :
    (ofPairs ps).filter (fun e => p e.1) = ofPairs (ps.filter fun e => p e.1) := by
  have hfold (es : Entries κ ν) :
      (ps.foldl (fun es e => putBy (· == ·) es e.1 e.2) es).filter (fun e => p e.1) =
        (ps.filter fun e => p e.1).foldl (fun es e => putBy (· == ·) es e.1 e.2)
          (es.filter fun e => p e.1) := by
    induction ps generalizing es with
    | nil => rfl
    | cons e ps ih =>
      rw [List.foldl_cons, ih, filter_put]
      cases hp : p e.1 with
      | false => rw [List.filter_cons_of_neg (by simp [hp]), if_neg Bool.false_ne_true]
      | true =>
        have hcons : (e :: ps).filter (fun e => p e.1) = e :: ps.filter fun e => p e.1 :=
          List.filter_cons_of_pos hp
        rw [hcons, if_pos rfl, List.foldl_cons]
  exact hfold []

end Lookup

section Keys

variable [BEq κ] {es : Entries κ ν}

theorem nodup_keys_remove (k : κ) (h : (es.map (·.1)).Nodup) :
    ((es.remove k).map (·.1)).Nodup :=
  h.sublist (List.filter_sublist.map _)

variable [LawfulBEq κ]

theorem nodup_keys_concat {k : κ} (v : ν) (h : (es.map (·.1)).Nodup)
    (hk : es.any (k == ·.1) = false) : ((es ++ [(k, v)]).map (·.1)).Nodup := by
  have hnew : k ∉ es.map (·.1) := by
    intro hmem
    rw [← any_keys, List.any_eq_false] at hk
    exact hk k hmem (beq_self_eq_true k)
  rw [List.map_append, List.map_singleton, ← List.concat_eq_append]
  exact h.concat hnew

theorem nodup_keys_put (k : κ) (v : ν) (h : (es.map (·.1)).Nodup) :
    ((es.put k v).map (·.1)).Nodup := by
  cases hk : es.any (k == ·.1) with
  | false =>
    rw [put, putBy_new v hk]
    exact nodup_keys_concat v h hk
  | true =>
    rw [put, putBy_known v hk, List.map_map]
    exact h

theorem nodup_keys_putNew (k : κ) (v : ν) (h : (es.map (·.1)).Nodup) :
    ((es.putNew k v).map (·.1)).Nodup := by
  rw [putNew]
  cases hk : es.any (k == ·.1) with
  | false => exact nodup_keys_concat v h hk
  | true => exact h

theorem nodup_keys_update (more : Entries κ ν) (h : (es.map (·.1)).Nodup) :
    ((es.update more).map (·.1)).Nodup := by
  induction more generalizing es with
  | nil => exact h
  | cons p more ih => exact ih (nodup_keys_put p.1 p.2 h)

theorem nodup_keys_foldl_putNew (more : Entries κ ν) (h : (es.map (·.1)).Nodup) :
    ((more.foldl (fun es p => es.putNew p.1 p.2) es).map (·.1)).Nodup := by
  induction more generalizing es with
  | nil => exact h
  | cons p more ih => exact ih (nodup_keys_putNew p.1 p.2 h)

end Keys

end Courier.Entries
