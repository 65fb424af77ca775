import Courier.Json.Reader
import Mathlib.Data.List.Basic

/-! How deep a text nests. A reader finds a text too deep only if more brackets open in it than the reader
admits levels, and it does so where that many open in a row. -/

namespace Courier.Json

def isOpening (c : Char) : Bool := c == '[' || c == '\x7b'

/-- How many arrays and objects can begin in a text. Brackets inside strings count, too. -/
def openings (s : List Char) : Nat := s.countP isOpening

/-- What a reader of so many levels may make of a text. -/
inductive Within {α : Type} (depth : Nat) (s : List Char) : Read α → Prop
  | value {a : α} {r : List Char} (h : r <:+ s) : Within depth s (.ok (a, r))
  | malformed : Within depth s (.error .malformed)
  | tooDeep {inObject : Bool} (h : depth < openings s) :
    Within depth s (.error (.tooDeep inObject))

section Texts

variable {α : Type} {depth : Nat} {c : Char} {s t r : List Char} {x : Read α}

theorem openings_le (h : t <:+ s) : openings t ≤ openings s := h.sublist.countP_le

theorem Within.of_suffix (h : Within depth t x) (hs : t <:+ s) : Within depth s x := by
  cases h with
  | value h => exact .value (h.trans hs)
  | malformed => exact .malformed
  | tooDeep h => exact .tooDeep (Nat.lt_of_lt_of_le h (openings_le hs))

/-- One level more for what stands behind an opening bracket. -/
theorem Within.bracketed (h : Within depth r x) (hc : isOpening c = true) :
    Within (depth + 1) (c :: r) x := by
  cases h with
  | value h => exact .value (h.trans (List.suffix_cons c r))
  | malformed => exact .malformed
  | tooDeep h =>
    have hone : openings (c :: r) = openings r + 1 := List.countP_cons_of_pos hc
    exact .tooDeep (by omega)

theorem openings_pos (hc : isOpening c = true) (r : List Char) : 0 < openings (c :: r) :=
  List.countP_pos_iff.mpr ⟨c, List.mem_cons_self, hc⟩

theorem skipBlank_suffix (s : List Char) : skipBlank s <:+ s := List.dropWhile_suffix _

theorem suffix_of_skipBlank (h : skipBlank r = c :: t) : t <:+ r := by
  have hs := skipBlank_suffix r
  rw [h] at hs
  exact (List.suffix_cons c t).trans hs

end Texts

section Scalars

variable {depth : Nat} {s r : List Char}

theorem readString_within (halves : Bool) (mode : StringMode) (acc s : List Char) :
    Within depth s (readString halves mode acc s) := by
  induction s generalizing mode acc with
  | nil => exact .malformed
  | cons c r ih =>
    rw [readString.eq_def]
    split
    · exact .malformed
    · next c' r' he =>
      cases he
      split
      · split
        · exact .value (List.suffix_cons _ r)
        · exact .malformed
      · split
        · exact (ih _ _).of_suffix (List.suffix_cons c r)
        · exact .malformed

theorem readWord_within (word : String) (v : Json) (s : List Char) :
    Within depth s (readWord word v s) := by
  unfold readWord
  split
  · exact .value (List.drop_suffix _ _)
  · exact .malformed

theorem spanDigits_suffix {ds : List Char} (h : spanDigits s = (ds, r)) : r <:+ s := by
  cases h
  exact List.dropWhile_suffix _

theorem readFraction_suffix {part : Option (List Char)} (h : readFraction s = some (part, r)) :
    r <:+ s := by
  unfold readFraction at h
  split at h
  · next t =>
    generalize hspan : spanDigits t = span at h
    obtain ⟨ds, rest⟩ := span
    simp only at h
    split_ifs at h
    cases h
    exact (spanDigits_suffix hspan).trans (List.suffix_cons _ t)
  · cases h
    exact List.suffix_rfl

theorem readSign_suffix (s : List Char) : (readSign s).2 <:+ s := by
  unfold readSign
  split
  · exact List.suffix_cons _ _
  · exact List.suffix_cons _ _
  · exact List.suffix_rfl

theorem readExponent_suffix {exponent : Option Int} (h : readExponent s = some (exponent, r)) :
    r <:+ s := by
  unfold readExponent at h
  split at h
  · cases h
    exact List.suffix_rfl
  · next c t =>
    have hsign := readSign_suffix t
    generalize readSign t = sign at h hsign
    obtain ⟨negative, u⟩ := sign
    simp only at h
    generalize hspan : spanDigits u = span at h
    obtain ⟨ds, rest⟩ := span
    simp only at h
    by_cases hc : c = 'e' ∨ c = 'E'
    · by_cases hds : ds.isEmpty = true
      · simp [hc, hds] at h
      · rw [if_pos hc, if_neg hds] at h
        cases h
        exact (spanDigits_suffix hspan).trans (hsign.trans (List.suffix_cons c t))
    · rw [if_neg hc] at h
      cases h
      exact List.suffix_rfl

theorem readMagnitude_within (digits : Nat) (negative : Bool) (s : List Char) :
    Within depth s (readMagnitude digits negative s) := by
  unfold readMagnitude
  generalize hspan : spanDigits s = span
  obtain ⟨whole, r⟩ := span
  have hr := spanDigits_suffix hspan
  simp only
  split_ifs
  · exact .malformed
  · cases hf : readFraction r with
    | none => exact .malformed
    | some f =>
      obtain ⟨part, t⟩ := f
      have ht := (readFraction_suffix hf).trans hr
      simp only
      cases he : readExponent t with
      | none => exact .malformed
      | some e =>
        obtain ⟨exponent, u⟩ := e
        have hu := (readExponent_suffix he).trans ht
        simp only
        split_ifs
        · exact .malformed
        · exact .value hu

theorem readNumber_within (digits : Nat) (s : List Char) :
    Within depth s (readNumber digits s) := by
  unfold readNumber
  split
  · exact readWord_within _ _ _
  · exact (readMagnitude_within _ _ _).of_suffix (List.suffix_cons _ _)
  · exact readMagnitude_within _ _ _

end Scalars

section Parts

variable {depth : Nat} {value : List Char → Read Json}

theorem readItems_within (hv : ∀ t, Within depth t (value t)) (fuel : Nat) (acc : List Json)
    (s : List Char) : Within depth s (readItems value fuel acc s) := by
  induction fuel generalizing acc s with
  | zero => exact .malformed
  | succ fuel ih =>
    have hread := (hv (skipBlank s)).of_suffix (skipBlank_suffix s)
    rw [readItems]
    generalize value (skipBlank s) = x at hread ⊢
    cases hread with
    | malformed => exact .malformed
    | tooDeep h => exact .tooDeep h
    | @value v r h =>
      simp only
      split
      · next he => exact (ih _ _).of_suffix ((suffix_of_skipBlank he).trans h)
      · next he => exact .value ((suffix_of_skipBlank he).trans h)
      · exact .malformed

theorem readEntry_within (hv : ∀ t, Within depth t (value t)) (halves : Bool) (s : List Char) :
    Within depth s (readEntry halves value s) := by
  unfold readEntry
  split
  · next t =>
    have hkey : Within depth ('"' :: t) (readString halves (.plain none) [] t) :=
      (readString_within _ _ _ t).of_suffix (List.suffix_cons _ t)
    generalize readString halves (.plain none) [] t = x at hkey ⊢
    cases hkey with
    | malformed => exact .malformed
    | tooDeep h => exact .tooDeep h
    | @value k r h =>
      simp only
      split
      · next r' he =>
        have hr := (skipBlank_suffix r').trans ((suffix_of_skipBlank he).trans h)
        have hread := (hv (skipBlank r')).of_suffix hr
        generalize value (skipBlank r') = y at hread ⊢
        cases hread with
        | malformed => exact .malformed
        | tooDeep h => exact .tooDeep h
        | value h => exact .value h
      · exact .malformed
  · exact .malformed

theorem readEntries_within (hv : ∀ t, Within depth t (value t)) (halves : Bool) (fuel : Nat)
    (acc : List (String × Json)) (s : List Char) :
    Within depth s (readEntries halves value fuel acc s) := by
  induction fuel generalizing acc s with
  | zero => exact .malformed
  | succ fuel ih =>
    have hread := (readEntry_within hv halves (skipBlank s)).of_suffix (skipBlank_suffix s)
    rw [readEntries]
    generalize readEntry halves value (skipBlank s) = x at hread ⊢
    cases hread with
    | malformed => exact .malformed
    | tooDeep h => exact .tooDeep h
    | @value entry r h =>
      simp only
      split
      · next he => exact (ih _ _).of_suffix ((suffix_of_skipBlank he).trans h)
      · next he => exact .value ((suffix_of_skipBlank he).trans h)
      · exact .malformed

end Parts

section Values

variable {limits : Limits} {fuel depth : Nat}

/-- One level of a value, given what readers of fewer levels do. -/
theorem readValue_within_step
    (hv : ∀ d, d + 1 = depth → ∀ t, Within d t (readValue limits fuel d t)) (s : List Char) :
    Within depth s (readValue limits fuel depth s) := by
  cases s with
  | nil =>
    rw [readValue.eq_def]
    exact .malformed
  | cons c r =>
    rw [readValue.eq_def]
    simp only
    split_ifs with hquote hbracket hbrace
    · have hread : Within depth (c :: r) (readString limits.halves (.plain none) [] r) :=
        (readString_within _ _ _ r).of_suffix (List.suffix_cons c r)
      generalize readString limits.halves (.plain none) [] r = x at hread ⊢
      cases hread with
      | malformed => exact .malformed
      | tooDeep h => exact .tooDeep h
      | value h => exact .value h
    · have hc : isOpening c = true := by rw [hbracket]; rfl
      cases depth with
      | zero => exact .tooDeep (openings_pos hc r)
      | succ d =>
        refine Within.bracketed ?_ hc
        simp only
        split
        · next he => exact .value (suffix_of_skipBlank he)
        · exact (readItems_within (hv d rfl) _ _ _).of_suffix (skipBlank_suffix r)
    · have hc : isOpening c = true := by rw [hbrace]; rfl
      cases depth with
      | zero => exact .tooDeep (openings_pos hc r)
      | succ d =>
        refine Within.bracketed ?_ hc
        simp only
        split
        · next he => exact .value (suffix_of_skipBlank he)
        · exact (readEntries_within (hv d rfl) _ _ _ _).of_suffix (skipBlank_suffix r)
    all_goals first | exact readWord_within _ _ _ | exact readNumber_within _ _

theorem readValue_within (limits : Limits) (fuel depth : Nat) (s : List Char) :
    Within depth s (readValue limits fuel depth s) := by
  induction depth generalizing s with
  | zero => exact readValue_within_step (fun d hd => (Nat.succ_ne_zero d hd).elim) s
  | succ depth ih =>
    refine readValue_within_step (fun d hd => ?_) s
    cases hd
    exact ih

theorem depth_lt_openings {inObject : Bool} {s : List Char}
    (h : read limits s = .error (.tooDeep inObject)) : limits.depth < openings s := by
  have hread := (readValue_within limits s.length limits.depth (skipBlank s)).of_suffix
    (skipBlank_suffix s)
  unfold read at h
  generalize readValue limits s.length limits.depth (skipBlank s) = x at hread h
  cases hread with
  | value => simp only at h; split at h <;> cases h
  | malformed => cases h
  | tooDeep hd => exact hd

theorem readValue_unclosed (limits : Limits) (fuel depth : Nat) (r : List Char) :
    readValue limits (fuel + 1) depth (List.replicate (depth + 1) '[' ++ r) =
      .error (.tooDeep false) := by
  induction depth with
  | zero =>
    rw [readValue.eq_def]
    rfl
  | succ depth ih =>
    have hskip (t : List Char) : skipBlank ('[' :: t) = '[' :: t := rfl
    have hbracket : ('[' : Char) ≠ '"' := by decide
    rw [List.replicate_succ, List.cons_append] at ih ⊢
    rw [List.replicate_succ, List.cons_append, readValue.eq_def]
    simp only [hskip, if_neg hbracket, if_true, readItems]
    split
    · next he => exact absurd (List.cons.inj he).1 (by decide)
    · rw [hskip, ih]

/-- More brackets in a row than there are levels are too deep, whatever follows them. -/
theorem read_unclosed {limits : Limits} {n : Nat} (h : limits.depth < n) (r : List Char) :
    read limits (List.replicate n '[' ++ r) = .error (.tooDeep false) := by
  obtain ⟨k, rfl⟩ : ∃ k, n = limits.depth + 1 + k := ⟨n - (limits.depth + 1), by omega⟩
  have hskip : skipBlank (List.replicate (limits.depth + 1 + k) '[' ++ r) =
      List.replicate (limits.depth + 1) '[' ++ (List.replicate k '[' ++ r) := by
    rw [List.replicate_add, List.append_assoc, List.replicate_succ]
    rfl
  have hlength : ∃ fuel, (List.replicate (limits.depth + 1 + k) '[' ++ r).length = fuel + 1 :=
    ⟨limits.depth + k + r.length, by simp; omega⟩
  obtain ⟨fuel, hfuel⟩ := hlength
  rw [read, hskip, hfuel, readValue_unclosed]

end Values

end Courier.Json
