import Courier.Json.Printer
import Courier.Json.Reader
import Courier.Proofs.Number.Digits
import Courier.Proofs.Text.Utf8

/-! JSON strings and integers read back. An escape is read as the character that it was written for,
whatever stands before and after it; an integer is read as far as its digits go. -/

namespace Courier

theorem hexValue?_hexDigit (n : Nat) : hexValue? (hexDigit n) = some (n % 16) := by
  have h : ∀ d < 16, hexValue? (if d < 10 then Char.ofNat (48 + d) else Char.ofNat (87 + d)) =
      some d := by decide
  exact h (n % 16) (Nat.mod_lt n (by omega))

theorem hexDigits_four (n : Nat) :
    hexDigits 4 n =
      [hexDigit (n / 4096), hexDigit (n / 256), hexDigit (n / 16), hexDigit n] := by
  have h0 : power 16 0 = 1 := rfl
  have h1 : power 16 1 = 16 := rfl
  have h2 : power 16 2 = 256 := rfl
  have h3 : power 16 3 = 4096 := rfl
  simp [hexDigits, List.range_succ, h0, h1, h2, h3]

theorem joinHalves_split (m : Nat) :
    joinHalves (0xD800 + m / 0x400) (0xDC00 + m % 0x400) = 0x10000 + m := by
  unfold joinHalves
  rw [Nat.add_sub_cancel_left, Nat.add_sub_cancel_left, Nat.add_assoc, Nat.div_add_mod']

namespace Json

section Strings

variable {halves : Bool} {acc t : List Char}

theorem readString_step {mode : StringMode} {c : Char} (mode' : StringMode) (acc' : List Char)
    (hc : c ≠ '"' ∨ ∀ half, mode ≠ .plain half)
    (h : stringStep halves mode acc c = some (mode', acc')) :
    readString halves mode acc (c :: t) = readString halves mode' acc' t := by
  cases mode with
  | plain half =>
    have hq : c ≠ '"' := by
      rcases hc with hc | hc
      · exact hc
      · exact (hc half rfl).elim
    simp [readString, hq, h]
  | escape half => simp [readString, h]
  | hex half left code => simp [readString, h]

/-- One digit of an escape that is not its last. -/
theorem stringStep_hex {half : Option Nat} {left code : Nat} (n : Nat) (h : 1 < left) :
    stringStep halves (.hex half left code) acc (hexDigit n) =
      some (.hex half (left - 1) (16 * code + n % 16), acc) := by
  have hl : ¬ left ≤ 1 := by omega
  simp [stringStep, hexValue?_hexDigit, hl]

theorem readString_unitEscape {half : Option Nat} {mode : StringMode} {acc' : List Char} {n : Nat}
    (hn : n < 0x10000) (h : takeCode halves half n acc = some (mode, acc')) :
    readString halves (.plain half) acc (unitEscape n ++ t) = readString halves mode acc' t := by
  have hcode : 16 * (16 * (16 * (16 * 0 + n / 4096 % 16) + n / 256 % 16) + n / 16 % 16) + n % 16 =
      n := by omega
  have hlast : stringStep halves
      (.hex half 1 (16 * (16 * (16 * 0 + n / 4096 % 16) + n / 256 % 16) + n / 16 % 16)) acc
      (hexDigit n) = some (mode, acc') := by
    simp only [stringStep, hexValue?_hexDigit, Option.bind_eq_bind, Option.bind_some, hcode, h,
      Nat.le_refl, if_true]
  rw [unitEscape, hexDigits_four]
  simp only [List.cons_append, List.nil_append]
  rw [readString_step (.escape half) acc (.inl (by decide)) rfl,
    readString_step (.hex half 4 0) acc (.inl (by decide)) rfl,
    readString_step _ _ (.inr (by simp)) (stringStep_hex (n / 4096) (by omega)),
    readString_step _ _ (.inr (by simp)) (stringStep_hex (n / 256) (by omega)),
    readString_step _ _ (.inr (by simp)) (stringStep_hex (n / 16) (by omega)),
    readString_step _ _ (.inr (by simp)) hlast]

/-- A character beyond the basic plane is written as two halves, which are read as one character. -/
theorem readString_pair {n : Nat} (hn : 0x10000 ≤ n) (hn' : n < 0x110000) :
    readString halves (.plain none) acc
        (unitEscape (0xD800 + (n - 0x10000) / 0x400) ++
          (unitEscape (0xDC00 + (n - 0x10000) % 0x400) ++ t)) =
      readString halves (.plain none) (charOfCode n :: acc) t := by
  have hhigh : isHighHalf (0xD800 + (n - 0x10000) / 0x400) = true := by
    simp only [isHighHalf, Bool.and_eq_true, decide_eq_true_eq]
    omega
  have hlow : isLowHalf (0xDC00 + (n - 0x10000) % 0x400) = true := by
    simp only [isLowHalf, Bool.and_eq_true, decide_eq_true_eq]
    omega
  have hjoin : joinHalves (0xD800 + (n - 0x10000) / 0x400) (0xDC00 + (n - 0x10000) % 0x400) = n := by
    rw [joinHalves_split, Nat.add_sub_cancel' hn]
  rw [readString_unitEscape (by omega) (by rw [takeCode, if_pos hhigh]),
    readString_unitEscape (by omega) (by rw [takeCode, if_pos hlow, hjoin])]

theorem readString_basic {n : Nat} (hn : n < 0x10000) (hs : n < 0xD800 ∨ 0xE000 ≤ n) :
    readString halves (.plain none) acc (unitEscape n ++ t) =
      readString halves (.plain none) (charOfCode n :: acc) t := by
  have hhigh : isHighHalf n = false := by
    simp only [isHighHalf, Bool.and_eq_false_iff, decide_eq_false_iff_not]
    omega
  have hlow : isLowHalf n = false := by
    simp only [isLowHalf, Bool.and_eq_false_iff, decide_eq_false_iff_not]
    omega
  exact readString_unitEscape hn (by simp [takeCode, hhigh, hlow])

theorem readString_escapeChar (c : Char) :
    readString halves (.plain none) acc (escapeChar c ++ t) =
      readString halves (.plain none) (c :: acc) t := by
  have hcode := charOfCode_toNat c
  have hvalid := toNat_below_or_above c
  -- A backslash and one more character, where what is written is not a quote alone.
  have hsimple (d : Char) (hu : d ≠ 'u') (hd : simpleEscape? d = some c) :
      readString halves (.plain none) acc (['\\', d] ++ t) =
        readString halves (.plain none) (c :: acc) t := by
    simp only [List.cons_append, List.nil_append]
    rw [readString_step (.escape none) acc (.inl (by decide)) rfl,
      readString_step (.plain none) (c :: acc) (.inr (by simp))
        (by simp [stringStep, hu, hd, settleHalf])]
  unfold escapeChar
  split_ifs with h1 h2 h3 h4 h5 h6 h7 h8
  · rcases h1 with rfl | rfl
    · exact hsimple '"' (by decide) rfl
    · exact hsimple '\\' (by decide) rfl
  · exact hsimple 'n' (by decide) (by rw [h2]; rfl)
  · exact hsimple 'r' (by decide) (by rw [h3]; rfl)
  · exact hsimple 't' (by decide) (by rw [h4]; rfl)
  · exact hsimple 'b' (by decide) (by rw [h5]; rfl)
  · exact hsimple 'f' (by decide) (by rw [h6]; rfl)
  · have hq : c ≠ '"' := fun h => h1 (.inl h)
    have hb : c ≠ '\\' := fun h => h1 (.inr h)
    have hlt : ¬ c < ' ' := Char.not_lt.mpr h7.1
    rw [List.singleton_append]
    exact readString_step _ _ (.inl hq) (by simp [stringStep, hb, hlt, settleHalf])
  · rw [readString_basic h8 (by omega), hcode]
  · rw [List.append_assoc, readString_pair (by omega) (by omega), hcode]

theorem readString_print (halves : Bool) (acc s t : List Char) :
    readString halves (.plain none) acc (s.flatMap escapeChar ++ '"' :: t) =
      .ok (String.ofList (acc.reverse ++ s), t) := by
  induction s generalizing acc with
  | nil => simp [readString, settleHalf]
  | cons c s ih =>
    rw [List.flatMap_cons, List.append_assoc, readString_escapeChar, ih]
    simp

end Strings

/-- What may stand behind a value: nothing, or a mark that ends it. -/
def Ends (rest : List Char) : Prop := ∀ c ∈ rest.head?, c = ',' ∨ c = ']' ∨ c = '}'

namespace Ends

variable {rest : List Char}

theorem not_digit (h : Ends rest) : ∀ c ∈ rest.head?, isDigit c = false := by
  intro c hc
  rcases h c hc with rfl | rfl | rfl <;> rfl

theorem readFraction (h : Ends rest) : readFraction rest = some (none, rest) := by
  cases rest with
  | nil => rfl
  | cons c r => rcases h c rfl with rfl | rfl | rfl <;> rfl

theorem readExponent (h : Ends rest) : readExponent rest = some (none, rest) := by
  cases rest with
  | nil => rfl
  | cons c r => rcases h c rfl with rfl | rfl | rfl <;> rfl

end Ends

section Numbers

variable {digits : Nat} {rest : List Char}

/-- Digits that a number may begin with: no zero stands before others. -/
structure Whole (whole : List Char) : Prop where
  digits : ∀ c ∈ whole, isDigit c = true
  nonempty : whole ≠ []
  zero : whole.head? = some '0' → whole.length = 1

theorem whole_natDigits (n : Nat) : Whole (natDigits n) :=
  ⟨isDigit_of_mem_natDigits n, natDigits_ne_nil n, natDigits_length_of_head?⟩

/-- A number of a whole part and what is read behind it. -/
theorem readMagnitude_parts (negative : Bool) {whole s s' : List Char} {part : Option (List Char)}
    {exponent : Option Int} (hw : Whole whole) (hs : ∀ c ∈ s.head?, isDigit c = false)
    (hpart : readFraction s = some (part, s')) (hexponent : readExponent s' = some (exponent, rest))
    (hlength : part = none → exponent = none → whole.length ≤ digits) :
    readMagnitude digits negative (whole ++ s) =
      .ok (numberOf negative whole part exponent, rest) := by
  have hwhole : ¬ (whole.isEmpty = true ∨ (whole.head? = some '0' ∧ 1 < whole.length)) := by
    rintro (h | ⟨h, hl⟩)
    · exact hw.nonempty (List.isEmpty_iff.mp h)
    · rw [hw.zero h] at hl
      exact absurd hl (Nat.lt_irrefl 1)
  have hshort : (part.isNone && exponent.isNone && decide (digits < whole.length)) = false := by
    cases part with
    | some ds => rfl
    | none =>
      cases exponent with
      | some e => rfl
      | none => simpa using hlength rfl rfl
  simp only [readMagnitude, spanDigits_append hw.digits hs, if_neg hwhole, hpart, hexponent]
  simp [hshort]

theorem readMagnitude_natDigits (negative : Bool) (n : Nat) (hd : (natDigits n).length ≤ digits)
    (hr : Ends rest) :
    readMagnitude digits negative (natDigits n ++ rest) =
      .ok (.int (if negative then -(n : Int) else n), rest) := by
  have hread := readMagnitude_parts negative (whole_natDigits n) hr.not_digit hr.readFraction
    hr.readExponent fun _ _ => hd
  rw [hread, numberOf]
  simp [ofDigits_natDigits]

theorem readNumber_digit {c : Char} (hc : isDigit c = true) (s : List Char) :
    readNumber digits (c :: s) = readMagnitude digits false (c :: s) := by
  have hne : c ≠ '-' := by
    rintro rfl
    cases hc
  simp [readNumber, hne]

theorem readNumber_minus {c : Char} (hc : isDigit c = true) (s : List Char) :
    readNumber digits ('-' :: c :: s) = readMagnitude digits true (c :: s) := by
  have hne : c ≠ 'I' := by
    rintro rfl
    cases hc
  simp [readNumber, hne]

theorem readNumber_intDigits {n : Int} (hd : (natDigits n.natAbs).length ≤ digits)
    (hr : Ends rest) : readNumber digits (intDigits n ++ rest) = .ok (.int n, rest) := by
  cases n with
  | ofNat m =>
    have hread := readMagnitude_natDigits false m hd hr
    obtain ⟨c, r, hc, hdigit⟩ := natDigits_head m
    show readNumber digits (natDigits m ++ rest) = _
    rw [hc] at hread ⊢
    exact (readNumber_digit hdigit _).trans hread
  | negSucc m =>
    have hread := readMagnitude_natDigits true (m + 1) hd hr
    obtain ⟨c, r, hc, hdigit⟩ := natDigits_head (m + 1)
    show readNumber digits ('-' :: natDigits (m + 1) ++ rest) = _
    rw [hc] at hread ⊢
    exact (readNumber_minus hdigit _).trans hread

end Numbers

end Json

end Courier
