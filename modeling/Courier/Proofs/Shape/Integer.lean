import Courier.Proofs.Shape.Checked
import Courier.Proofs.Text.Parts
import Mathlib.Data.Rat.Lemmas
import Mathlib.Tactic.NormNum

/-! What is wrong with a value where a text or an integer is wanted. Of a text only its form counts: the
numeral of an integer has a sign or none, digits that single underscores may part, and no more than zeros
behind a point. -/

namespace Courier

/-- Digits, between which single underscores may stand. -/
inductive Grouped : List Char → Prop
  | last {c : Char} (h : isDigit c = true) : Grouped [c]
  | digit {c : Char} {r : List Char} (h : isDigit c = true) (hr : Grouped r) : Grouped (c :: r)
  | mark {c : Char} {r : List Char} (h : isDigit c = true) (hr : Grouped r) : Grouped (c :: '_' :: r)

theorem Grouped.head {s : List Char} (h : Grouped s) : ∃ c r, s = c :: r ∧ isDigit c = true := by
  cases h with
  | last h => exact ⟨_, _, rfl, h⟩
  | digit h => exact ⟨_, _, rfl, h⟩
  | mark h => exact ⟨_, _, rfl, h⟩

theorem digit_ne {c d : Char} (h : isDigit c = true) (hd : isDigit d = false) : c ≠ d := by
  rintro rfl
  rw [h] at hd
  cases hd

theorem Grouped.ne_point {s : List Char} (h : Grouped s) : ∀ c ∈ s, c ≠ '.' := by
  induction h with
  | last h => simpa using digit_ne h rfl
  | digit h _ ih =>
    rintro a (_ | ⟨_, ha⟩)
    · exact digit_ne h rfl
    · exact ih a ha
  | mark h _ ih =>
    rintro a (_ | ⟨_, _ | ⟨_, ha⟩⟩)
    · exact digit_ne h rfl
    · decide
    · exact ih a ha

theorem groupedDigits?_isSome_iff (s : List Char) :
    (groupedDigits? s).isSome = true ↔ Grouped s := by
  constructor
  · intro h
    fun_induction groupedDigits? s with
    | case1 => cases h
    | case2 c hc => exact .last hc
    | case3 c hc => cases h
    | case4 c r hc ih => exact .mark hc (ih (by simpa using h))
    | case5 c r hc => cases h
    | case6 c r hr hm hc ih => exact .digit hc (ih (by simpa using h))
    | case7 c r hr hm hc => cases h
  · intro h
    induction h with
    | last h => simp [groupedDigits?, h]
    | digit h hr ih =>
      obtain ⟨d, r, rfl, hd⟩ := hr.head
      have hmark : d ≠ '_' := digit_ne hd rfl
      simp [groupedDigits?, h, hmark, ih]
    | mark h hr ih => simp [groupedDigits?, h, ih]

/-- Nothing behind the whole part, or a point and zeros. -/
def IsZeroFraction (s : List Char) : Prop := s = [] ∨ ∃ n, s = '.' :: List.replicate (n + 1) '0'

theorem isZeroFraction_iff (s : List Char) : isZeroFraction s = true ↔ IsZeroFraction s := by
  constructor
  · intro h
    unfold isZeroFraction at h
    split at h
    · exact .inl rfl
    · next r =>
      simp only [Bool.and_eq_true, Bool.not_eq_true', List.all_eq_true, beq_iff_eq] at h
      have hlength : 0 < r.length := List.length_pos_iff.mpr (List.isEmpty_eq_false_iff.mp h.1)
      refine .inr ⟨r.length - 1, ?_⟩
      rw [Nat.sub_add_cancel hlength]
      exact congrArg _ (List.eq_replicate_iff.mpr ⟨rfl, h.2⟩)
    · cases h
  · rintro (rfl | ⟨n, rfl⟩)
    · rfl
    · simp [isZeroFraction]

/-- The numeral of an integer. -/
def IsNumeral (t : List Char) : Prop :=
  ∃ sign whole fraction : List Char, t = sign ++ (whole ++ fraction) ∧
    (sign = [] ∨ sign = ['+'] ∨ sign = ['-']) ∧ Grouped whole ∧ IsZeroFraction fraction

/-- What is behind the sign, up to the point and from the point on. -/
theorem isNumeral_iff (t : List Char) :
    IsNumeral t ↔
      Grouped ((splitSign t).2.takeWhile (· ≠ '.')) ∧
        IsZeroFraction ((splitSign t).2.dropWhile (· ≠ '.')) := by
  constructor
  · rintro ⟨sign, whole, fraction, rfl, hsign, hwhole, hfraction⟩
    obtain ⟨c, r, hc, hdigit⟩ := hwhole.head
    have hrest : (splitSign (sign ++ (whole ++ fraction))).2 = whole ++ fraction := by
      rcases hsign with rfl | rfl | rfl
      · have hminus : c ≠ '-' := digit_ne hdigit rfl
        have hplus : c ≠ '+' := digit_ne hdigit rfl
        simp [hc, splitSign, hminus, hplus]
      · rfl
      · rfl
    have hpoint : '.' ∉ whole := fun hm => hwhole.ne_point _ hm rfl
    have hstop : ∀ a ∈ fraction.head?, a = '.' := by
      rcases hfraction with rfl | ⟨n, rfl⟩
      · simp
      · simp
    -- The whole part has no point, so the first one is where the fraction starts.
    obtain ⟨htake, hdrop⟩ := span_mark hpoint hstop
    rw [hrest, htake, hdrop]
    exact ⟨hwhole, hfraction⟩
  · rintro ⟨hwhole, hfraction⟩
    have hsplit : ∃ sign : List Char, t = sign ++ (splitSign t).2 ∧
        (sign = [] ∨ sign = ['+'] ∨ sign = ['-']) := by
      unfold splitSign
      split
      · exact ⟨['-'], rfl, .inr (.inr rfl)⟩
      · exact ⟨['+'], rfl, .inr (.inl rfl)⟩
      · exact ⟨[], rfl, .inl rfl⟩
    obtain ⟨sign, ht, hsign⟩ := hsplit
    refine ⟨sign, _, _, ?_, hsign, hwhole, hfraction⟩
    rwa [List.takeWhile_append_dropWhile]

instance (t : List Char) : Decidable (IsNumeral t) :=
  decidable_of_iff
    ((groupedDigits? ((splitSign t).2.takeWhile (· ≠ '.'))).isSome = true ∧
      isZeroFraction ((splitSign t).2.dropWhile (· ≠ '.')) = true)
    (by rw [isNumeral_iff, groupedDigits?_isSome_iff, isZeroFraction_iff])

/-- What is wrong with a value where a text is wanted. -/
def textFaults : Json → List FaultKind
  | .str _ => []
  | _ => [.stringType]

/-- What is wrong with a value where an integer is wanted. -/
def integerFaults : Json → List FaultKind
  | .int _ => []
  | .bool _ => []
  | .float x =>
    match x.toRat? with
    | none => [.finiteNumber]
    | some q =>
      if q.isInt then if -2 ^ 63 < q ∧ q < 2 ^ 63 then [] else [.intParsingSize]
      else [.intFromFloat]
  | .str s =>
    let t := stripBy isBlank s.toList
    if IsNumeral t then if t.length ≤ 4300 then [] else [.intParsingSize] else [.intParsing]
  | _ => [.intType]

/-- Faults of a value itself, and not of its parts. -/
def Checked.atRoot (ks : List FaultKind) : List Fault := ks.map fun k => ⟨[], k⟩

theorem faults_checkText (v : Json) : (checkText v).faults = Checked.atRoot (textFaults v) := by
  cases v <;> rfl

theorem faults_checkNumeral (s : String) :
    (checkNumeral s.toList).faults = Checked.atRoot (integerFaults (.str s)) := by
  have hnumeral := isNumeral_iff (stripBy isBlank s.toList)
  rw [← groupedDigits?_isSome_iff, ← isZeroFraction_iff] at hnumeral
  simp only [checkNumeral, integerFaults]
  cases hdigits : groupedDigits? ((splitSign (stripBy isBlank s.toList)).2.takeWhile (· ≠ '.')) with
  | none =>
    rw [hdigits] at hnumeral
    rw [if_neg fun h => absurd (hnumeral.mp h).1 (by simp)]
    rfl
  | some ds =>
    by_cases hzeros :
        isZeroFraction ((splitSign (stripBy isBlank s.toList)).2.dropWhile (· ≠ '.')) = true
    · have his : IsNumeral (stripBy isBlank s.toList) :=
        hnumeral.mpr ⟨by rw [hdigits]; rfl, hzeros⟩
      simp only [if_pos hzeros, if_pos his]
      by_cases hlong : 4300 < (stripBy isBlank s.toList).length
      · rw [if_pos hlong, if_neg (Nat.not_le.mpr hlong)]
        rfl
      · rw [if_neg hlong, if_pos (Nat.not_lt.mp hlong)]
        rfl
    · rw [if_neg fun h => hzeros (hnumeral.mp h).2]
      simp only [if_neg hzeros]
      rfl

theorem faults_checkWholeFloat (x : Double) :
    (checkWholeFloat x).faults = Checked.atRoot (integerFaults (.float x)) := by
  simp only [checkWholeFloat, integerFaults]
  cases x.toRat? with
  | none => rfl
  | some q =>
    by_cases hint : q.den = 1
    · obtain ⟨n, rfl⟩ : ∃ n : Int, q = n := ⟨q.num, ((Rat.den_eq_one_iff q).mp hint).symm⟩
      have hbounds : (-2 ^ 63 < (n : ℚ) ∧ (n : ℚ) < 2 ^ 63) ↔ -wordBound < n ∧ n < wordBound := by
        have hbound : (2 : ℚ) ^ 63 = wordBound := by norm_num [wordBound]
        rw [hbound]
        norm_cast
      simp only [Rat.isInt, Rat.den_intCast, Rat.num_intCast, hbounds]
      by_cases hfits : -wordBound < n ∧ n < wordBound
      · simp [hfits, Checked.faults, Checked.atRoot]
      · simp [hfits, Checked.faults, Checked.atRoot, Checked.fault]
    · simp [hint, Rat.isInt, Checked.faults, Checked.atRoot, Checked.fault]

theorem faults_checkInt (v : Json) : (checkInt v).faults = Checked.atRoot (integerFaults v) := by
  cases v with
  | float x => exact faults_checkWholeFloat x
  | str s => exact faults_checkNumeral s
  | null | bool | int | arr | obj =>
    simp [checkInt, integerFaults, Checked.atRoot, Checked.faults, Checked.fault]

section Sound

open Checked

theorem sound_checkText (v : Json) : (checkText v).Sound := by
  cases v <;> nofun

theorem sound_checkWholeFloat (x : Double) : (checkWholeFloat x).Sound := by
  unfold checkWholeFloat
  split
  · exact sound_fault _
  · split_ifs
    · exact sound_fault _
    · exact sound_ok _
    · exact sound_fault _

theorem sound_checkNumeral (s : List Char) : (checkNumeral s).Sound := by
  simp only [checkNumeral]
  split
  · exact sound_fault _
  · split_ifs
    · exact sound_fault _
    · exact sound_ok _
    · exact sound_ok _
    · exact sound_fault _

theorem sound_checkInt (v : Json) : (checkInt v).Sound := by
  cases v with
  | float x => exact sound_checkWholeFloat x
  | str s => exact sound_checkNumeral s.toList
  | int | bool => exact sound_ok _
  | null | arr | obj => exact sound_fault _

end Sound

end Courier
