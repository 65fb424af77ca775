import Courier.Number.Decimal
import Courier.Proofs.Text.Parts
import Mathlib.Data.List.Induction
import Mathlib.Tactic.Ring

/-! Decimal digits of a number: they write it, and no zero leads them. -/

namespace Courier

theorem isDigit_digitChar (n : Nat) : isDigit (digitChar n) = true := by
  have h : ∀ d < 10, isDigit (Char.ofNat ('0'.toNat + d)) = true := by decide
  exact h (n % 10) (Nat.mod_lt n (by omega))

theorem digitValue_digitChar (n : Nat) : digitValue (digitChar n) = n % 10 := by
  have h : ∀ d < 10, digitValue (Char.ofNat ('0'.toNat + d)) = d := by decide
  exact h (n % 10) (Nat.mod_lt n (by omega))

theorem digitsBefore_append (n : Nat) (acc more : List Char) :
    digitsBefore n (acc ++ more) = digitsBefore n acc ++ more := by
  induction n using Nat.strongRecOn generalizing acc with
  | ind n ih =>
    rw [digitsBefore, digitsBefore.eq_def n acc]
    split
    · rfl
    · exact ih (n / 10) (by omega) (digitChar n :: acc)

theorem natDigits_of_lt {n : Nat} (h : n < 10) : natDigits n = [digitChar n] := by
  rw [natDigits, digitsBefore, if_pos h]

theorem natDigits_of_le {n : Nat} (h : 10 ≤ n) :
    natDigits n = natDigits (n / 10) ++ [digitChar n] := by
  have hn : ¬ n < 10 := by omega
  rw [natDigits, digitsBefore, if_neg hn]
  exact digitsBefore_append (n / 10) [] [digitChar n]

/-- What holds of one digit, and of a number's digits if it holds of those before the last one, holds
of the digits of every number. -/
theorem natDigits_induction {P : Nat → List Char → Prop}
    (one : ∀ n, n < 10 → P n [digitChar n])
    (more : ∀ n, 10 ≤ n → P (n / 10) (natDigits (n / 10)) →
      P n (natDigits (n / 10) ++ [digitChar n])) (n : Nat) : P n (natDigits n) := by
  induction n using Nat.strongRecOn with
  | ind n ih =>
    by_cases h : n < 10
    · rw [natDigits_of_lt h]
      exact one n h
    · rw [natDigits_of_le (by omega)]
      exact more n (by omega) (ih (n / 10) (by omega))

theorem natDigits_ne_nil (n : Nat) : natDigits n ≠ [] :=
  natDigits_induction (P := fun _ ds => ds ≠ []) (fun _ _ => by simp) (fun _ _ _ => by simp) n

theorem isDigit_of_mem_natDigits (n : Nat) : ∀ c ∈ natDigits n, isDigit c = true := by
  refine natDigits_induction (P := fun _ ds => ∀ c ∈ ds, isDigit c = true) ?_ ?_ n
  · intro n _ c hc
    rw [List.mem_singleton.mp hc]
    exact isDigit_digitChar n
  · intro n _ ih c hc
    rcases List.mem_append.mp hc with hc | hc
    · exact ih c hc
    · rw [List.mem_singleton.mp hc]
      exact isDigit_digitChar n

theorem natDigits_head (n : Nat) : ∃ c r, natDigits n = c :: r ∧ isDigit c = true := by
  cases h : natDigits n with
  | nil => exact (natDigits_ne_nil n h).elim
  | cons c r =>
    refine ⟨c, r, rfl, isDigit_of_mem_natDigits n c ?_⟩
    rw [h]
    exact List.mem_cons_self

theorem ofDigits_concat (ds : List Char) (c : Char) :
    ofDigits (ds ++ [c]) = 10 * ofDigits ds + digitValue c := by
  simp [ofDigits, List.foldl_append]

theorem ofDigits_append (as bs : List Char) :
    ofDigits (as ++ bs) = ofDigits as * 10 ^ bs.length + ofDigits bs := by
  induction bs using List.reverseRecOn with
  | nil => simp [ofDigits]
  | append_singleton bs c ih =>
    rw [← List.append_assoc, ofDigits_concat, ofDigits_concat, ih, List.length_append,
      List.length_singleton]
    ring

theorem ofDigits_zeros (n : Nat) : ofDigits (List.replicate n '0') = 0 := by
  induction n with
  | zero => rfl
  | succ n ih =>
    rw [List.replicate_succ', ofDigits_concat, ih]
    rfl

theorem ofDigits_natDigits (n : Nat) : ofDigits (natDigits n) = n := by
  refine natDigits_induction (P := fun n ds => ofDigits ds = n) ?_ ?_ n
  · intro n h
    have hd : ofDigits [digitChar n] = 10 * 0 + digitValue (digitChar n) := rfl
    rw [hd, digitValue_digitChar]
    omega
  · intro n h ih
    rw [ofDigits_concat, ih, digitValue_digitChar]
    omega

theorem digitChar_ne_zero {n : Nat} (h : 0 < n) (h' : n < 10) : digitChar n ≠ '0' := by
  intro he
  have hv := digitValue_digitChar n
  have hz : digitValue '0' = 0 := rfl
  rw [he, hz] at hv
  omega

theorem natDigits_head?_ne_zero {n : Nat} (h : 0 < n) : (natDigits n).head? ≠ some '0' := by
  refine natDigits_induction (P := fun n ds => 0 < n → ds.head? ≠ some '0') ?_ ?_ n h
  · intro n h hn he
    exact digitChar_ne_zero hn h (Option.some.inj he)
  · intro n h ih _
    rw [List.head?_append_of_ne_nil _ (natDigits_ne_nil _)]
    exact ih (by omega)

/-- Zero alone begins with a zero, and it is one digit long. -/
theorem natDigits_length_of_head? {n : Nat} (h : (natDigits n).head? = some '0') :
    (natDigits n).length = 1 := by
  have hn : n = 0 := by
    by_contra hn
    exact natDigits_head?_ne_zero (by omega) h
  rw [hn, natDigits_of_lt (by omega)]
  rfl

/-- The number of digits of a number, against the powers of ten around it. -/
theorem natDigits_bounds (n : Nat) :
    n < 10 ^ (natDigits n).length ∧ (0 < n → 10 ^ (natDigits n).length ≤ 10 * n) := by
  refine natDigits_induction
    (P := fun n ds => n < 10 ^ ds.length ∧ (0 < n → 10 ^ ds.length ≤ 10 * n)) ?_ ?_ n
  · intro n h
    simp only [List.length_singleton, Nat.pow_one]
    omega
  · intro n h ih
    have hpos := ih.2 (by omega)
    simp only [List.length_append, List.length_singleton, Nat.pow_succ]
    omega

theorem spanDigits_append {ds rest : List Char} (hd : ∀ c ∈ ds, isDigit c = true)
    (hr : ∀ c ∈ rest.head?, isDigit c = false) : spanDigits (ds ++ rest) = (ds, rest) := by
  obtain ⟨htake, hdrop⟩ := span_boundary hd hr
  rw [spanDigits, htake, hdrop]

end Courier
