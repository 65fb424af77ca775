import Courier.Json.Printer
import Courier.Proofs.Json.Scalars
import Courier.Proofs.Number.Shortest
import Mathlib.Data.List.TakeWhile

/-! Floats in JSON text. The digits that are written of a float are read as a decimal that rounds to it,
in whichever of the layouts they stand. -/

namespace Courier.Json

/-- Digits with no zero in front. -/
structure Leading (ds : List Char) : Prop where
  digits : ∀ c ∈ ds, isDigit c = true
  nonempty : ds ≠ []
  head : ds.head? ≠ some '0'

/-- The written digits of a decimal and their exponent stand for the decimal. -/
theorem scientific_spec {x : Decimal} (hx : 0 < x.digits) {ds : List Char} {e : Int}
    (h : x.scientific = (ds, e)) :
    Leading ds ∧ (ofDigits ds : ℚ) * 10 ^ (e + 1 - ds.length) = x.toRat := by
  simp only [Decimal.scientific, Prod.mk.injEq] at h
  obtain ⟨hds, he⟩ := h
  have hsplit : ∃ zeros, natDigits x.digits = ds ++ List.replicate zeros '0' := by
    refine ⟨((natDigits x.digits).reverse.takeWhile (· = '0')).length, ?_⟩
    have hzeros := List.eq_replicate_of_mem (a := '0')
      (l := (natDigits x.digits).reverse.takeWhile (· = '0')) fun c hc => by
        simpa using List.mem_takeWhile_imp hc
    rw [← hds, ← List.reverse_replicate, ← hzeros, ← List.reverse_append,
      List.takeWhile_append_dropWhile, List.reverse_reverse]
  obtain ⟨zeros, hsplit⟩ := hsplit
  have hvalue := ofDigits_natDigits x.digits
  rw [hsplit, ofDigits_append, ofDigits_zeros, List.length_replicate, Nat.add_zero] at hvalue
  have hne : ds ≠ [] := by
    rintro rfl
    rw [← hvalue] at hx
    exact absurd hx (by simp [ofDigits])
  refine ⟨⟨fun c hc => ?_, hne, ?_⟩, ?_⟩
  · apply isDigit_of_mem_natDigits x.digits c
    rw [hsplit]
    exact List.mem_append_left _ hc
  · have hhead := natDigits_head?_ne_zero hx
    rwa [hsplit, List.head?_append_of_ne_nil _ hne] at hhead
  · rw [Decimal.toRat_eq, ← hvalue, ← he, hsplit, List.length_append, List.length_replicate]
    push_cast
    rw [mul_assoc, ← zpow_natCast (10 : ℚ) zeros, ← zpow_add₀ (by norm_num)]
    congr 2
    ring

section Parts

variable {ds rest : List Char}

theorem readFraction_digits (hd : ∀ c ∈ ds, isDigit c = true) (hne : ds ≠ [])
    (hr : ∀ c ∈ rest.head?, isDigit c = false) :
    readFraction ('.' :: (ds ++ rest)) = some (some ds, rest) := by
  simp [readFraction, spanDigits_append hd hr, hne]

theorem exponentDigits_spec (e : Int) :
    ∃ ds : List Char, exponentDigits e = (if e < 0 then '-' else '+') :: ds ∧
      (∀ c ∈ ds, isDigit c = true) ∧ ds ≠ [] ∧ ofDigits ds = e.natAbs := by
  have hdigits := isDigit_of_mem_natDigits e.natAbs
  have hvalue := ofDigits_natDigits e.natAbs
  rw [exponentDigits]
  by_cases hshort : (natDigits e.natAbs).length < 2
  · refine ⟨'0' :: natDigits e.natAbs, by simp [hshort], ?_, by simp, ?_⟩
    · intro c hc
      rcases List.mem_cons.mp hc with rfl | hc
      · rfl
      · exact hdigits c hc
    · rw [← List.singleton_append, ofDigits_append, hvalue]
      simp [ofDigits, digitValue]
  · exact ⟨natDigits e.natAbs, by simp [hshort], hdigits, natDigits_ne_nil _, hvalue⟩

theorem readExponent_digits (e : Int) (hr : ∀ c ∈ rest.head?, isDigit c = false) :
    readExponent ('e' :: (exponentDigits e ++ rest)) = some (some e, rest) := by
  obtain ⟨ds, hds, hdigits, hne, hvalue⟩ := exponentDigits_spec e
  by_cases he : e < 0
  · have habs : -(e.natAbs : Int) = e := by omega
    simp only [readExponent, hds, if_pos he, List.cons_append, readSign,
      spanDigits_append hdigits hr, hvalue, habs]
    simp [hne]
  · have habs : (e.natAbs : Int) = e := by omega
    simp only [readExponent, hds, if_neg he, List.cons_append, readSign,
      spanDigits_append hdigits hr, hvalue, habs]
    simp [hne]

end Parts

section Layouts

variable {digits : Nat} {ds rest : List Char} {e : Int}

/-- A text that is read as a decimal of the value that digits stand for before an exponent. -/
def ReadAs (digits : Nat) (negative : Bool) (s : List Char) (ds : List Char) (e : Int)
    (rest : List Char) : Prop :=
  ∃ (n : Nat) (k : Int),
    readMagnitude digits negative s = .ok (.float (.ofDecimal negative n k), rest) ∧
    (n : ℚ) * 10 ^ k = ofDigits ds * 10 ^ (e + 1 - ds.length)

theorem Leading.whole (h : Leading ds) {whole : List Char} (hd : ∀ c ∈ whole, isDigit c = true)
    (hhead : whole.head? = ds.head?) : Whole whole := by
  refine ⟨hd, ?_, ?_⟩
  · rintro rfl
    exact h.nonempty (List.head?_eq_none_iff.mp hhead.symm)
  · intro hzero
    rw [hhead] at hzero
    exact (h.head hzero).elim

theorem digit_of_mem_zeros {n : Nat} : ∀ c ∈ List.replicate n '0', isDigit c = true := by
  intro c hc
  rw [List.eq_of_mem_replicate hc]
  rfl

theorem not_digit_cons {c : Char} (h : isDigit c = false) (r : List Char) :
    ∀ d ∈ (c :: r).head?, isDigit d = false := by
  rintro _ ⟨⟩
  exact h

theorem readAs_point (negative : Bool) {whole part : List Char} (hw : Whole whole)
    (hpart : ∀ c ∈ part, isDigit c = true) (hne : part ≠ []) (hr : Ends rest)
    (hvalue : (ofDigits (whole ++ part) : ℚ) * 10 ^ (-(part.length : Int)) =
      ofDigits ds * 10 ^ (e + 1 - ds.length)) :
    ReadAs digits negative (whole ++ '.' :: (part ++ rest)) ds e rest := by
  refine ⟨ofDigits (whole ++ part), 0 - part.length, ?_, by rwa [zero_sub]⟩
  exact readMagnitude_parts negative hw (not_digit_cons rfl _)
    (readFraction_digits hpart hne hr.not_digit) hr.readExponent nofun

theorem readAs_small (negative : Bool) (h : Leading ds) (he : e < 0) (hr : Ends rest) :
    ReadAs digits negative
      ('0' :: '.' :: (List.replicate (-e - 1).toNat '0' ++ ds ++ rest)) ds e rest := by
  have hzero : Whole ['0'] := ⟨by simp [isDigit], by simp, by simp⟩
  refine readAs_point negative hzero ?_ (by simp [h.nonempty]) hr ?_
  · intro c hc
    rcases List.mem_append.mp hc with hc | hc
    · exact digit_of_mem_zeros c hc
    · exact h.digits c hc
  · have hdigits : ofDigits (['0'] ++ (List.replicate (-e - 1).toNat '0' ++ ds)) = ofDigits ds := by
      have hzeros := ofDigits_zeros ((-e - 1).toNat + 1)
      rw [← List.append_assoc, ofDigits_append, List.singleton_append, ← List.replicate_succ,
        hzeros, Nat.zero_mul, Nat.zero_add]
    rw [hdigits, List.length_append, List.length_replicate]
    congr 2
    omega

theorem readAs_positional (negative : Bool) (h : Leading ds) (he : 0 ≤ e) (hr : Ends rest) :
    ReadAs digits negative
      (ds.take (e.toNat + 1) ++ List.replicate (e.toNat + 1 - ds.length) '0' ++
        '.' :: ((if (ds.drop (e.toNat + 1)).isEmpty then ['0'] else ds.drop (e.toNat + 1)) ++ rest))
      ds e rest := by
  have hw : Whole (ds.take (e.toNat + 1) ++ List.replicate (e.toNat + 1 - ds.length) '0') := by
    apply h.whole
    · intro c hc
      rcases List.mem_append.mp hc with hc | hc
      · exact h.digits c (List.mem_of_mem_take hc)
      · exact digit_of_mem_zeros c hc
    · cases ds with
      | nil => exact (h.nonempty rfl).elim
      | cons d r => rfl
  by_cases hlength : ds.length ≤ e.toNat + 1
  -- All digits are before the point, and zeros fill up the places to it.
  · have hback : ds.drop (e.toNat + 1) = [] := List.drop_eq_nil_of_le hlength
    rw [hback]
    refine readAs_point negative hw (by simp [isDigit]) (by simp) hr ?_
    have hzeros : List.replicate (e.toNat + 1 - ds.length) '0' ++ ['0'] =
        List.replicate (e.toNat + 1 - ds.length + 1) '0' := List.replicate_succ'.symm
    rw [List.take_of_length_le hlength]
    simp only [List.isEmpty_nil, if_true]
    rw [List.append_assoc, hzeros, ofDigits_append, ofDigits_zeros, List.length_replicate,
      Nat.add_zero, Nat.cast_mul, Nat.cast_pow, mul_assoc, ← zpow_natCast,
      Nat.cast_ofNat, ← zpow_add₀ (by norm_num)]
    congr 2
    simp only [List.length_singleton]
    omega
  -- The point is between the digits.
  · have hback : (ds.drop (e.toNat + 1)).isEmpty = false := by
      rw [List.isEmpty_eq_false_iff, ne_eq, List.drop_eq_nil_iff]
      exact hlength
    have hfront : e.toNat + 1 - ds.length = 0 := by omega
    rw [hfront] at hw ⊢
    rw [hback]
    refine readAs_point negative hw (fun c hc => h.digits c (List.mem_of_mem_drop hc)) ?_ hr ?_
    · simpa using hback
    · simp only [List.replicate_zero, List.append_nil, Bool.false_eq_true, if_false,
        List.take_append_drop, List.length_drop]
      congr 2
      omega

theorem readAs_scientific (negative : Bool) (h : Leading ds) (he : ¬ (-4 ≤ e ∧ e < 16))
    (hr : Ends rest) : ReadAs digits negative (layout ds e ++ rest) ds e rest := by
  have hexponent := readExponent_digits e hr.not_digit
  have hstop : isDigit 'e' = false := rfl
  unfold layout
  rw [if_neg he]
  cases ds with
  | nil => exact (h.nonempty rfl).elim
  | cons d more =>
    cases more with
    | nil =>
      have hw : Whole [d] := h.whole h.digits rfl
      refine ⟨ofDigits [d], e - 0, ?_, by simp⟩
      have hnone (s : List Char) : readFraction ('e' :: s) = some (none, 'e' :: s) := rfl
      exact readMagnitude_parts negative hw (not_digit_cons hstop _) (hnone _) hexponent nofun
    | cons c more =>
      have hw : Whole [d] := h.whole (fun a ha => h.digits a (by simp_all)) rfl
      have hpart : ∀ a ∈ c :: more, isDigit a = true :=
        fun a ha => h.digits a (List.mem_cons_of_mem _ ha)
      refine ⟨ofDigits (d :: c :: more), e - (c :: more).length, ?_, ?_⟩
      · simp only [List.cons_append, List.append_assoc]
        exact readMagnitude_parts negative hw (not_digit_cons rfl _)
          (readFraction_digits hpart (by simp) (not_digit_cons hstop _)) hexponent nofun
      · congr 2
        simp only [List.length_cons]
        push_cast
        ring

theorem readAs_layout (negative : Bool) (h : Leading ds) (hr : Ends rest) :
    ReadAs digits negative (layout ds e ++ rest) ds e rest := by
  by_cases hrange : -4 ≤ e ∧ e < 16
  · unfold layout
    rw [if_pos hrange]
    by_cases hneg : e < 0
    · rw [if_pos hneg]
      simpa using readAs_small negative h hneg hr
    · rw [if_neg hneg]
      simpa using readAs_positional negative h (by omega) hr
  · exact readAs_scientific negative h hrange hr

theorem layout_head (h : Leading ds) : ∃ c r, layout ds e = c :: r ∧ isDigit c = true := by
  cases ds with
  | nil => exact (h.nonempty rfl).elim
  | cons d more =>
    have hd := h.digits d List.mem_cons_self
    unfold layout
    split
    · split
      · exact ⟨'0', _, rfl, rfl⟩
      · exact ⟨d, _, rfl, hd⟩
    · cases more <;> exact ⟨d, _, rfl, hd⟩

end Layouts

section Texts

variable {q : ℚ}

/-- What is written of a float other than zero: digits in the rounding interval of its magnitude. -/
theorem text_finite (hq : (Double.finite q).IsBinary64) (hzero : q ≠ 0) :
    ∃ (m : Nat) (e : Int) (ds : List Char) (k : Int),
      Magnitude m e ∧ (if q < 0 then -q else q) = m * 2 ^ e ∧ Leading ds ∧
      Around (gapBelow m e) m (ofDigits ds * 10 ^ (k + 1 - ds.length) / 2 ^ e) ∧
      (Double.finite q).text.toList = (if q < 0 then ['-'] else []) ++ layout ds k := by
  obtain ⟨m, e, hm, hvalue⟩ := hq.magnitude hzero
  have habs : (if q < 0 then -q else q) = m * 2 ^ e := by
    rw [← hvalue]
    split
    next hneg => rw [abs_of_neg hneg]
    next hneg => rw [abs_of_nonneg (not_lt.mp hneg)]
  have haround := around_shortestDecimal hm
  have hpos : 0 < (shortestDecimal (m * 2 ^ e)).digits := by
    have hlow := hm.half_le_of_around haround
    by_contra hnone
    rw [Decimal.toRat_eq, Nat.eq_zero_of_not_pos hnone, Nat.cast_zero, zero_mul] at hlow
    exact absurd hlow (not_le.mpr (by positivity))
  obtain ⟨ds, k, hsplit⟩ : ∃ ds k, (shortestDecimal (m * 2 ^ e)).scientific = (ds, k) :=
    ⟨_, _, rfl⟩
  obtain ⟨hds, hsame⟩ := scientific_spec hpos hsplit
  refine ⟨m, e, ds, k, hm, habs, hds, ?_, ?_⟩
  · rw [hsame]
    exact haround
  · simp only [Double.text, if_neg hzero, habs, hsplit, String.toList_ofList]

theorem text_finite_head (hq : (Double.finite q).IsBinary64) :
    ∃ c r, (Double.finite q).text.toList = c :: r ∧ (isDigit c = true ∨ c = '-') := by
  by_cases hzero : q = 0
  · subst hzero
    exact ⟨'0', _, rfl, .inl rfl⟩
  · obtain ⟨m, e, ds, k, -, -, hds, -, htext⟩ := text_finite hq hzero
    obtain ⟨c, r, hhead, hc⟩ := layout_head (e := k) hds
    rw [htext, hhead]
    by_cases hneg : q < 0
    · exact ⟨'-', c :: r, by rw [if_pos hneg]; rfl, .inr rfl⟩
    · exact ⟨c, r, by rw [if_neg hneg]; rfl, .inl hc⟩

theorem readMagnitude_zero {digits : Nat} {rest : List Char} (negative : Bool) (hr : Ends rest) :
    readMagnitude digits negative ('0' :: '.' :: '0' :: rest) =
      .ok (.float (.signedZero negative), rest) := by
  have hw : Whole ['0'] := ⟨by simp [isDigit], by simp, by simp⟩
  have hpart : readFraction ('.' :: (['0'] ++ rest)) = some (some ['0'], rest) :=
    readFraction_digits (by simp [isDigit]) (by simp) hr.not_digit
  exact readMagnitude_parts negative hw (not_digit_cons rfl _) hpart hr.readExponent nofun

theorem readNumber_finite (digits : Nat) {rest : List Char} (hq : (Double.finite q).IsBinary64)
    (hr : Ends rest) :
    readNumber digits ((Double.finite q).text.toList ++ rest) = .ok (.float (.finite q), rest) := by
  by_cases hzero : q = 0
  · subst hzero
    exact (readNumber_digit rfl _).trans (readMagnitude_zero false hr)
  · obtain ⟨m, e, ds, k, hm, habs, hds, haround, htext⟩ := text_finite hq hzero
    have hread (negative : Bool) : readMagnitude digits negative (layout ds k ++ rest) =
        .ok (.float (.finite (if negative then -(m * 2 ^ e) else m * 2 ^ e)), rest) := by
      have hlayout : ReadAs digits negative (layout ds k ++ rest) ds k rest :=
        readAs_layout negative hds hr
      obtain ⟨n, j, hread, hnj⟩ := hlayout
      rw [hread, Double.ofDecimal_eq negative hm]
      rw [hnj]
      exact haround
    obtain ⟨c, r, hhead, hc⟩ := layout_head (e := k) hds
    rw [htext]
    by_cases hneg : q < 0
    · have hminus := hread true
      rw [if_pos hneg] at habs ⊢
      rw [hhead] at hminus ⊢
      refine (readNumber_minus hc _).trans (hminus.trans ?_)
      rw [if_pos rfl, ← habs, neg_neg]
    · have hplus := hread false
      rw [if_neg hneg] at habs ⊢
      rw [hhead] at hplus ⊢
      refine (readNumber_digit hc _).trans (hplus.trans ?_)
      rw [if_neg Bool.false_ne_true, ← habs]

end Texts

end Courier.Json
