import Courier.Text.Utf8
import Mathlib.Data.List.Basic

/-! UTF-8 read back. The bytes of a character are read as that character whatever follows them, so a
text comes back from its bytes by induction. -/

namespace Courier

theorem toNat_below_or_above (c : Char) :
    c.toNat < 0xD800 ∨ (0xE000 ≤ c.toNat ∧ c.toNat < 0x110000) := by
  have h : c.val.toNat < 0xD800 ∨ (0xDFFF < c.val.toNat ∧ c.val.toNat < 0x110000) := c.valid
  exact h

theorem charOfCode_toNat (c : Char) : charOfCode c.toNat = c := by
  rw [charOfCode, if_pos (toNat_below_or_above c), Char.ofNat_toNat]

section Steps

variable {halves : Bool} {b n : Nat} {p : Utf8Pending} {bs : Bytes}

theorem utf8Continue_last (hb : p.low ≤ b ∧ b ≤ p.high) (hl : p.left ≤ 1) :
    utf8Continue halves p b = ([some (charOfCode (p.code * 64 + b % 64))], none) := by
  simp [utf8Continue, hb, hl]

theorem utf8Continue_more (hb : p.low ≤ b ∧ b ≤ p.high) (hl : 1 < p.left) :
    utf8Continue halves p b = ([], some ⟨p.left - 1, 0x80, 0xBF, p.code * 64 + b % 64⟩) := by
  have h : ¬ p.left ≤ 1 := by omega
  simp [utf8Continue, hb, h]

theorem utf8Begin_two (h : 0x80 ≤ n) (h' : n < 0x800) :
    utf8Begin halves (0xC0 + n / 64) = ([], some ⟨1, 0x80, 0xBF, n / 64⟩) := by
  have h1 : ¬ 0xC0 + n / 64 < 0x80 := by omega
  have h2 : ¬ 0xC0 + n / 64 < 0xC2 := by omega
  have h3 : 0xC0 + n / 64 < 0xE0 := by omega
  rw [utf8Begin, if_neg h1, if_neg h2, if_pos h3, Nat.add_sub_cancel_left]

/-- The first byte of three fixes how many are left; the bounds on the second one keep out short codes
and surrogates. -/
theorem utf8Begin_three (h : 0x800 ≤ n) (h' : n < 0x10000) (hs : n < 0xD800 ∨ 0xE000 ≤ n) :
    ∃ low high, utf8Begin halves (0xE0 + n / 4096) = ([], some ⟨2, low, high, n / 4096⟩) ∧
      low ≤ 0x80 + n / 64 % 64 ∧ 0x80 + n / 64 % 64 ≤ high := by
  have h1 : ¬ 0xE0 + n / 4096 < 0x80 := by omega
  have h2 : ¬ 0xE0 + n / 4096 < 0xC2 := by omega
  have h3 : ¬ 0xE0 + n / 4096 < 0xE0 := by omega
  have h4 : 0xE0 + n / 4096 < 0xF0 := by omega
  simp only [utf8Begin, if_neg h1, if_neg h2, if_neg h3, if_pos h4, Nat.add_sub_cancel_left]
  by_cases h5 : 0xE0 + n / 4096 = 0xE0
  · have hz : n / 4096 = 0 := by omega
    rw [if_pos h5, hz]
    exact ⟨0xA0, 0xBF, rfl, by omega, by omega⟩
  · rw [if_neg h5]
    by_cases h6 : 0xE0 + n / 4096 = 0xED ∧ !halves
    · have hz : n / 4096 = 13 := by omega
      rw [if_pos h6, hz]
      exact ⟨0x80, 0x9F, rfl, by omega, by omega⟩
    · rw [if_neg h6]
      exact ⟨0x80, 0xBF, rfl, by omega, by omega⟩

theorem utf8Begin_four (h : 0x10000 ≤ n) (h' : n < 0x110000) :
    ∃ low high, utf8Begin halves (0xF0 + n / 262144) = ([], some ⟨3, low, high, n / 262144⟩) ∧
      low ≤ 0x80 + n / 4096 % 64 ∧ 0x80 + n / 4096 % 64 ≤ high := by
  have h1 : ¬ 0xF0 + n / 262144 < 0x80 := by omega
  have h2 : ¬ 0xF0 + n / 262144 < 0xC2 := by omega
  have h3 : ¬ 0xF0 + n / 262144 < 0xE0 := by omega
  have h4 : ¬ 0xF0 + n / 262144 = 0xE0 := by omega
  have h5 : ¬ (0xF0 + n / 262144 = 0xED ∧ !halves) := by omega
  have h6 : ¬ 0xF0 + n / 262144 < 0xF0 := by omega
  simp only [utf8Begin, if_neg h1, if_neg h2, if_neg h3, if_neg h4, if_neg h5, if_neg h6,
    Nat.add_sub_cancel_left]
  by_cases h7 : 0xF0 + n / 262144 = 0xF0
  · have hz : n / 262144 = 0 := by omega
    rw [if_pos h7, hz]
    exact ⟨0x90, 0xBF, rfl, by omega, by omega⟩
  · rw [if_neg h7]
    by_cases h8 : 0xF0 + n / 262144 < 0xF4
    · rw [if_pos h8]
      exact ⟨0x80, 0xBF, rfl, by omega, by omega⟩
    · have hz : n / 262144 = 4 := by omega
      have h9 : 0xF0 + n / 262144 = 0xF4 := by omega
      rw [if_neg h8, if_pos h9, hz]
      exact ⟨0x80, 0x8F, rfl, by omega, by omega⟩

theorem utf8Read_begin (h : b < 256) {next : Option Utf8Pending} {cs : List (Option Char)}
    (hs : utf8Begin halves b = (cs, next)) :
    utf8Read halves none (UInt8.ofNat b :: bs) = cs ++ utf8Read halves next bs := by
  simp only [utf8Read, utf8Step, UInt8.toNat_ofNat_of_lt' h, hs]

/-- A later byte of a character carries six bits more of its code. -/
theorem utf8Read_more (hl : 1 < p.left) (h : p.low ≤ 0x80 + n % 64) (h' : 0x80 + n % 64 ≤ p.high) :
    utf8Read halves (some p) (UInt8.ofNat (0x80 + n % 64) :: bs) =
      utf8Read halves (some ⟨p.left - 1, 0x80, 0xBF, p.code * 64 + n % 64⟩) bs := by
  have hb : 0x80 + n % 64 < 256 := by omega
  have hm : (0x80 + n % 64) % 64 = n % 64 := by omega
  simp only [utf8Read, utf8Step, UInt8.toNat_ofNat_of_lt' hb, utf8Continue_more ⟨h, h'⟩ hl, hm,
    List.nil_append]

theorem utf8Read_last (h : p.low ≤ 0x80 + n % 64) (h' : 0x80 + n % 64 ≤ p.high) (hl : p.left ≤ 1) :
    utf8Read halves (some p) (UInt8.ofNat (0x80 + n % 64) :: bs) =
      some (charOfCode (p.code * 64 + n % 64)) :: utf8Read halves none bs := by
  have hb : 0x80 + n % 64 < 256 := by omega
  have hm : (0x80 + n % 64) % 64 = n % 64 := by omega
  simp only [utf8Read, utf8Step, UInt8.toNat_ofNat_of_lt' hb, utf8Continue_last ⟨h, h'⟩ hl, hm,
    List.singleton_append]

end Steps

theorem utf8Read_utf8Char (halves : Bool) (c : Char) (bs : Bytes) :
    utf8Read halves none (utf8Char c ++ bs) = some c :: utf8Read halves none bs := by
  have hp0 : power 64 0 = 1 := rfl
  have hp1 : power 64 1 = 64 := rfl
  have hp2 : power 64 2 = 4096 := rfl
  have hs := toNat_below_or_above c
  have hc := charOfCode_toNat c
  by_cases h1 : c.toNat < 0x80
  · have hb : utf8Begin halves c.toNat = ([some c], none) := by
      rw [utf8Begin, if_pos h1, Char.ofNat_toNat]
    simp only [utf8Char, if_pos h1, List.singleton_append]
    rw [utf8Read_begin (by omega) hb, List.singleton_append]
  by_cases h2 : c.toNat < 0x800
  · have hcode : c.toNat / 64 * 64 + c.toNat % 64 = c.toNat := by omega
    simp only [utf8Char, if_neg h1, if_pos h2, hp0, Nat.div_one, List.cons_append, List.nil_append]
    rw [utf8Read_begin (by omega) (utf8Begin_two (by omega) h2), List.nil_append,
      utf8Read_last (by show 0x80 ≤ _; omega) (by show _ ≤ 0xBF; omega) (Nat.le_refl 1)]
    simp only [hcode, hc]
  by_cases h3 : c.toNat < 0x10000
  · have hcode : (c.toNat / 4096 * 64 + c.toNat / 64 % 64) * 64 + c.toNat % 64 = c.toNat := by omega
    obtain ⟨low, high, hb, hlow, hhigh⟩ :=
      utf8Begin_three (by omega : 0x800 ≤ c.toNat) h3 (by omega)
    simp only [utf8Char, if_neg h1, if_neg h2, if_pos h3, hp0, hp1, Nat.div_one, List.cons_append,
      List.nil_append]
    rw [utf8Read_begin (by omega) hb, List.nil_append, utf8Read_more Nat.one_lt_two hlow hhigh,
      utf8Read_last (by show 0x80 ≤ _; omega) (by show _ ≤ 0xBF; omega) (Nat.le_refl 1)]
    simp only [hcode, hc]
  · have hcode : ((c.toNat / 262144 * 64 + c.toNat / 4096 % 64) * 64 + c.toNat / 64 % 64) * 64 +
        c.toNat % 64 = c.toNat := by omega
    obtain ⟨low, high, hb, hlow, hhigh⟩ :=
      utf8Begin_four (by omega : 0x10000 ≤ c.toNat) (by omega)
    simp only [utf8Char, if_neg h1, if_neg h2, if_neg h3, hp0, hp1, hp2, Nat.div_one,
      List.cons_append, List.nil_append]
    rw [utf8Read_begin (by omega) hb, List.nil_append,
      utf8Read_more (by show 1 < 3; omega) hlow hhigh,
      utf8Read_more Nat.one_lt_two (by show 0x80 ≤ _; omega) (by show _ ≤ 0xBF; omega),
      utf8Read_last (by show 0x80 ≤ _; omega) (by show _ ≤ 0xBF; omega) (Nat.le_refl 1)]
    simp only [hcode, hc]

theorem utf8Read_encode (halves : Bool) (s : List Char) :
    utf8Read halves none (utf8Encode s) = s.map some := by
  induction s with
  | nil => rfl
  | cons c s ih =>
    have hc : utf8Encode (c :: s) = utf8Char c ++ utf8Encode s := rfl
    rw [hc, utf8Read_utf8Char, ih, List.map_cons]

theorem utf8Decode?_encode (s : List Char) : utf8Decode? (utf8Encode s) = some s := by
  simp [utf8Decode?, utf8Read_encode, wellFormed?, List.filterMap_map]

end Courier
