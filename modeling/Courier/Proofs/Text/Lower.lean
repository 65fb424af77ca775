import Courier.Text.Lower
import Mathlib.Data.List.Basic

/-! Lower case is closed: no lower-case form of a character has a lower-case form of its own, so a text
in lower case, or one put together from such texts, stays as it is. The form of a text depends on what
stands around it only by a capital sigma, and not across a hyphen. -/

namespace Courier

namespace CaseRun

/-- The code point that the run takes another one to. -/
def form (r : CaseRun) (n : Nat) : Nat := (n + r.shift).toNat

/-- All forms of a run are characters. -/
def sound (r : CaseRun) : Bool :=
  Nat.blt 0 (r.form r.first) && Nat.blt (r.form r.last) 0x110000 &&
    (Nat.blt (r.form r.last) 0xD800 || Nat.blt 0xDFFF (r.form r.first))

/-- No form of one run is in another run: that one lies on one side of them all, or between every
second number. -/
def apart (r t : CaseRun) : Bool :=
  Nat.blt t.last (r.form r.first) || Nat.blt (r.form r.last) t.first ||
    t.step == 2 && (r.step == 2 || r.first == r.last) && (r.form r.first + t.first) % 2 == 1

/-- The capital I with a dot, which no run of the table covers. -/
def dotted : CaseRun := ⟨0x130, 0x130, 1, 0⟩

variable {r t : CaseRun} {n : Nat}

theorem covers_iff : r.covers n = true ↔ (r.first ≤ n ∧ n ≤ r.last) ∧ (n - r.first) % r.step = 0 := by
  simp [covers]

theorem form_eq (h : r.sound = true) (hn : r.first ≤ n) :
    r.form n = r.form r.first + (n - r.first) := by
  have hpos : 0 < r.form r.first := by
    simp only [sound, Bool.and_eq_true, Nat.blt_eq] at h
    exact h.1.1
  simp only [form] at hpos ⊢
  omega

theorem isValidChar_form (h : r.sound = true) (hn : r.covers n = true) :
    (r.form n).isValidChar := by
  obtain ⟨⟨hfirst, hlast⟩, -⟩ := covers_iff.mp hn
  have hform := form_eq h hfirst
  have htop := form_eq h (Nat.le_trans hfirst hlast)
  simp only [sound, Bool.and_eq_true, Bool.or_eq_true, Nat.blt_eq] at h
  rw [Nat.isValidChar]
  omega

theorem not_covers_form (hr : r.sound = true) (h : r.apart t = true) (hn : r.covers n = true) :
    t.covers (r.form n) = false := by
  obtain ⟨⟨hfirst, hlast⟩, hstep⟩ := covers_iff.mp hn
  have hform := form_eq hr hfirst
  have htop := form_eq hr (Nat.le_trans hfirst hlast)
  rw [Bool.eq_false_iff]
  intro ht
  obtain ⟨⟨htfirst, htlast⟩, htstep⟩ := covers_iff.mp ht
  simp only [apart, Bool.or_eq_true, Bool.and_eq_true, Nat.blt_eq, beq_iff_eq] at h
  rcases h with (h | h) | ⟨⟨htwo, h⟩, hodd⟩
  · omega
  · omega
  · -- The forms of `r` are all of the one parity, those that `t` covers of the other.
    rw [htwo] at htstep
    rcases h with h | h
    · rw [h] at hstep
      omega
    · omega

end CaseRun

theorem caseRuns_sound : (caseRuns.all CaseRun.sound) = true := by
  decide +kernel

theorem caseRuns_apart :
    (caseRuns.all fun r => (CaseRun.dotted :: caseRuns).all r.apart) = true := by
  decide +kernel

/-- A character that is its own lower-case form, whatever stands around it. -/
def IsLower (c : Char) : Prop := lowerChar c = c ∧ c ≠ 'Σ' ∧ c ≠ 'İ'

instance : DecidablePred IsLower := fun c =>
  inferInstanceAs (Decidable (lowerChar c = c ∧ c ≠ 'Σ' ∧ c ≠ 'İ'))

section Characters

variable {c d : Char}

theorem isLower_of_not_covers (h : ∀ r ∈ CaseRun.dotted :: caseRuns, r.covers c.toNat = false) :
    IsLower c := by
  refine ⟨?_, ?_, ?_⟩
  · have hnone : caseRuns.find? (·.covers c.toNat) = none := by
      rw [List.find?_eq_none]
      intro r hr
      simpa using h r (List.mem_cons_of_mem _ hr)
    rw [lowerChar, hnone]
  · rintro rfl
    have hsigma : caseRuns.any (·.covers 'Σ'.toNat) = true := by decide +kernel
    obtain ⟨r, hr, hc⟩ := List.any_eq_true.mp hsigma
    rw [h r (List.mem_cons_of_mem _ hr)] at hc
    cases hc
  · rintro rfl
    have hdotted := h CaseRun.dotted List.mem_cons_self
    cases hdotted

/-- A character is its own lower-case form, or a run of the table holds it. -/
theorem lowerChar_cases (c : Char) :
    (lowerChar c = c ∧ ∀ r ∈ caseRuns, r.covers c.toNat = false) ∨
      ∃ r ∈ caseRuns, r.covers c.toNat = true ∧ (lowerChar c).toNat = r.form c.toNat := by
  cases hfind : caseRuns.find? (·.covers c.toNat) with
  | none =>
    refine .inl ⟨by rw [lowerChar, hfind], fun r hr => ?_⟩
    simpa using List.find?_eq_none.mp hfind r hr
  | some r =>
    have hr := List.mem_of_find?_eq_some hfind
    have hcovers : r.covers c.toNat = true := by simpa using List.find?_some hfind
    have hvalid := CaseRun.isValidChar_form (List.all_eq_true.mp caseRuns_sound r hr) hcovers
    have hform : lowerChar c = Char.ofNat (r.form c.toNat) := by
      rw [lowerChar, hfind]
      rfl
    refine .inr ⟨r, hr, hcovers, ?_⟩
    rw [hform, Char.ofNat, dif_pos hvalid]
    rfl

/-- The lower-case form of a character has no other one. -/
theorem isLower_lowerChar (h : c ≠ 'İ') : IsLower (lowerChar c) := by
  rcases lowerChar_cases c with ⟨hself, hnone⟩ | ⟨r, hr, hcovers, hcode⟩
  · rw [hself]
    apply isLower_of_not_covers
    intro r hr
    rcases List.mem_cons.mp hr with rfl | hr
    · rw [Bool.eq_false_iff]
      intro hc
      obtain ⟨⟨hfirst, hlast⟩, -⟩ := CaseRun.covers_iff.mp hc
      exact h (Char.toNat_inj.mp (Nat.le_antisymm hlast hfirst))
    · exact hnone r hr
  · have hsound := List.all_eq_true.mp caseRuns_sound r hr
    have hapart := List.all_eq_true.mp caseRuns_apart r hr
    apply isLower_of_not_covers
    intro t ht
    rw [hcode]
    exact CaseRun.not_covers_form hsound (List.all_eq_true.mp hapart t ht) hcovers

/-- No run of the table goes below the small letters. -/
theorem lowerChar_eq_self (h : (lowerChar c).toNat < 'a'.toNat) : lowerChar c = c := by
  rcases lowerChar_cases c with ⟨hself, -⟩ | ⟨r, hr, hcovers, hcode⟩
  · exact hself
  · have hsound := List.all_eq_true.mp caseRuns_sound r hr
    have hletters : (caseRuns.all fun r => Nat.ble 'a'.toNat (r.form r.first)) = true := by
      decide +kernel
    have hfirst : 'a'.toNat ≤ r.form r.first :=
      Nat.le_of_ble_eq_true (List.all_eq_true.mp hletters r hr)
    have hform := CaseRun.form_eq hsound (CaseRun.covers_iff.mp hcovers).1.1
    omega

theorem isLower_of_mem_lowerInContext {behind : Bool} {ahead : List Char}
    (h : d ∈ lowerInContext behind c ahead) : IsLower d := by
  rw [lowerInContext] at h
  split_ifs at h with hsigma hbehind hdotted
  · rw [List.mem_singleton.mp h]
    decide +kernel
  · rw [List.mem_singleton.mp h]
    decide +kernel
  · have hi : IsLower 'i' := by decide +kernel
    have hdot : IsLower '\u0307' := by decide +kernel
    obtain rfl | rfl : d = 'i' ∨ d = '\u0307' := by simpa using h
    · exact hi
    · exact hdot
  · rw [List.mem_singleton.mp h]
    exact isLower_lowerChar hdotted

theorem lowerInContext_of_isLower (h : IsLower c) (behind : Bool) (ahead : List Char) :
    lowerInContext behind c ahead = [c] := by
  rw [lowerInContext, if_neg h.2.1, if_neg h.2.2, h.1]

end Characters

section Texts

variable {s : List Char}

theorem isLower_of_mem_lowerFrom (behind : Bool) (s : List Char) :
    ∀ d ∈ lowerFrom behind s, IsLower d := by
  induction s generalizing behind with
  | nil => exact fun d hd => nomatch hd
  | cons c r ih =>
    intro d hd
    rcases List.mem_append.mp hd with hd | hd
    · exact isLower_of_mem_lowerInContext hd
    · exact ih _ d hd

theorem lowerFrom_of_isLower (behind : Bool) (h : ∀ c ∈ s, IsLower c) : lowerFrom behind s = s := by
  induction s generalizing behind with
  | nil => rfl
  | cons c r ih =>
    obtain ⟨hc, hr⟩ := List.forall_mem_cons.mp h
    rw [lowerFrom, lowerInContext_of_isLower hc, ih _ hr]
    rfl

theorem lower_eq_nil_iff : lower s = [] ↔ s = [] := by
  cases s with
  | nil => simp [lower, lowerFrom]
  | cons c r =>
    have hform : lowerInContext false c r ≠ [] := by
      rw [lowerInContext]
      split_ifs <;> simp
    simp [lower, lowerFrom, hform]

theorem isLower_of_mem_lower (s : List Char) : ∀ c ∈ lower s, IsLower c :=
  isLower_of_mem_lowerFrom false s

/-- What stays in lower case stays character by character, whatever the context of each is. -/
theorem lower_eq_self_iff : lower s = s ↔ ∀ c ∈ s, IsLower c := by
  constructor
  · intro h
    rw [← h]
    exact isLower_of_mem_lower s
  · exact lowerFrom_of_isLower false

/-- The sigma that ended a word stays as it was written, where it ends none any more. -/
example : lower "ΑΣ".toList = "ας".toList ∧ lower "αςΣ".toList = "αςς".toList := by
  decide +kernel

/-- A text without a capital sigma takes its lower-case form whatever follows it. -/
theorem lowerFrom_append (behind : Bool) (t : List Char) (h : 'Σ' ∉ s) :
    lowerFrom behind (s ++ t) = lowerFrom behind s ++ lowerFrom (s.foldl casedBehind behind) t := by
  induction s generalizing behind with
  | nil => rfl
  | cons c r ih =>
    obtain ⟨hc, hr⟩ : c ≠ 'Σ' ∧ 'Σ' ∉ r := by simpa [eq_comm] using h
    have hcontext : lowerInContext behind c (r ++ t) = lowerInContext behind c r := by
      simp [lowerInContext, hc]
    simp only [List.cons_append, lowerFrom, hcontext, ih _ hr, List.foldl_cons, List.append_assoc]

theorem sigma_mem_lowerFrom (behind : Bool) (h : 'Σ' ∈ s) :
    'σ' ∈ lowerFrom behind s ∨ 'ς' ∈ lowerFrom behind s := by
  induction s generalizing behind with
  | nil => cases h
  | cons c r ih =>
    simp only [lowerFrom, List.mem_append]
    rcases List.mem_cons.mp h with rfl | hr
    · cases hfinal : behind && !casedAhead r <;> simp [lowerInContext, hfinal]
    · exact (ih _ hr).imp .inr .inr

theorem getLast?_of_lower {d : Char} (hd : d.toNat < 'a'.toNat) (hs : 'Σ' ∉ s)
    (h : (lower s).getLast? = some d) : s.getLast? = some d := by
  rcases List.eq_nil_or_concat' s with rfl | ⟨t, c, rfl⟩
  · cases h
  · obtain ⟨ht, hc⟩ : 'Σ' ∉ t ∧ 'Σ' ≠ c := by simpa using hs
    rw [lower, lowerFrom_append false [c] ht, lowerFrom, lowerInContext, if_neg hc.symm] at h
    split_ifs at h with hdotted
    · have hdot : '\u0307' = d := by simpa [lowerFrom] using h
      subst hdot
      exact absurd hd (by decide)
    · have hform : lowerChar c = d := by simpa [lowerFrom] using h
      have hself : lowerChar c = c := lowerChar_eq_self (hform ▸ hd)
      rw [List.getLast?_concat, ← hself, hform]

/-- A hyphen ends a word, so what stands behind it is put in lower case on its own. -/
theorem lower_append_of_hyphen (t : List Char) (hs : 'Σ' ∉ s) (h : s.getLast? = some '-') :
    lower (s ++ t) = lower s ++ lower t := by
  obtain ⟨init, rfl⟩ := List.getLast?_eq_some_iff.mp h
  have hbreak : (init ++ ['-']).foldl casedBehind false = false := by
    have hignored : isCaseIgnorable '-' = false := by decide +kernel
    have hcased : isCased '-' = false := by decide +kernel
    rw [List.foldl_append, List.foldl_cons, List.foldl_nil, casedBehind, hignored, hcased]
    rfl
  rw [lower, lowerFrom_append false t hs, hbreak]
  rfl

theorem lowerText_eq_self_iff {t : String} : lowerText t = t ↔ ∀ c ∈ t.toList, IsLower c := by
  rw [← lower_eq_self_iff, ← String.toList_inj, lowerText, String.toList_ofList]

end Texts

end Courier
