import Courier.Proofs.Text.Utf8
import Courier.Url.Percent

/-! Percent escapes read back. A text is read as itself exactly if no escape stands in it: reading
never makes a text longer, and each escape makes it shorter. -/

namespace Courier

namespace Utf8Pending

/-- What holds of every sequence under way: only a byte that begins no character can go on with it. -/
structure Continues (p : Utf8Pending) : Prop where
  low_ge : 0x80 ≤ p.low
  high_le : p.high ≤ 0xBF

end Utf8Pending

section Reading

variable {halves : Bool} {b : Nat} {pending : Option Utf8Pending}

/-- What a byte may do where a character begins: settle one thing, or begin a sequence. -/
inductive Begun : Utf8Step → Prop
  | settled (c : Option Char) : Begun ([c], none)
  | under {p : Utf8Pending} (h : p.Continues) : Begun ([], some p)

theorem utf8Begin_begun (halves : Bool) (b : Nat) : Begun (utf8Begin halves b) := by
  have hunder (left low high code : Nat) (hl : 0x80 ≤ low) (hh : high ≤ 0xBF) :
      Begun ([], some ⟨left, low, high, code⟩) := .under ⟨hl, hh⟩
  unfold utf8Begin
  iterate 2 refine iteInduction (fun _ => .settled _) fun _ => ?_
  iterate 7 refine iteInduction (fun _ => hunder _ _ _ _ (by decide) (by decide)) fun _ => ?_
  exact .settled _

theorem Begun.length {s : Utf8Step} (h : Begun s) : s.1.length + s.2.toList.length = 1 := by
  cases h <;> rfl

theorem Begun.continues {s : Utf8Step} {p : Utf8Pending} (h : Begun s) (hp : s.2 = some p) :
    p.Continues := by
  cases h with
  | settled => cases hp
  | under hq =>
    cases hp
    exact hq

theorem utf8Step_length (halves : Bool) (pending : Option Utf8Pending) (b : Nat) :
    (utf8Step halves pending b).1.length + (utf8Step halves pending b).2.toList.length ≤
      pending.toList.length + 1 := by
  have hbegin := (utf8Begin_begun halves b).length
  cases pending with
  | none => exact Nat.le_of_eq hbegin
  | some p =>
    simp only [utf8Step]
    by_cases hb : p.low ≤ b ∧ b ≤ p.high
    · by_cases hl : p.left ≤ 1
      · rw [utf8Continue_last hb hl]
        exact Nat.le_succ 1
      · rw [utf8Continue_more hb (by omega)]
        exact Nat.le_succ 1
    · simp only [utf8Continue, if_neg hb, List.length_cons, Option.toList_some, List.length_nil]
      omega

theorem utf8Step_continues {p : Utf8Pending} (h : (utf8Step halves pending b).2 = some p) :
    p.Continues := by
  cases pending with
  | none => exact (utf8Begin_begun halves b).continues h
  | some q =>
    simp only [utf8Step] at h
    by_cases hb : q.low ≤ b ∧ b ≤ q.high
    · by_cases hl : q.left ≤ 1
      · rw [utf8Continue_last hb hl] at h
        cases h
      · rw [utf8Continue_more hb (by omega)] at h
        cases h
        exact ⟨Nat.le_refl _, Nat.le_refl _⟩
    · simp only [utf8Continue, if_neg hb] at h
      exact (utf8Begin_begun halves b).continues h

theorem utf8Char_head (c : Char) :
    ∃ b bs, utf8Char c = b :: bs ∧ (b.toNat < 0x80 ∨ 0xC0 ≤ b.toNat) := by
  have hs := toNat_below_or_above c
  have hbyte (n : Nat) (hn : n < 256) : (UInt8.ofNat n).toNat = n := UInt8.toNat_ofNat_of_lt' hn
  simp only [utf8Char]
  split_ifs with h1 h2 h3
  · exact ⟨_, _, rfl, .inl (by rw [hbyte _ (by omega)]; exact h1)⟩
  · exact ⟨_, _, rfl, .inr (by rw [hbyte _ (by omega)]; omega)⟩
  · exact ⟨_, _, rfl, .inr (by rw [hbyte _ (by omega)]; omega)⟩
  · exact ⟨_, _, rfl, .inr (by rw [hbyte _ (by omega)]; omega)⟩

/-- A character that comes in the middle of a sequence ends it as malformed. -/
theorem utf8Read_interrupted {p : Utf8Pending} (hp : p.Continues) (c : Char) (bs : Bytes) :
    utf8Read halves (some p) (utf8Char c ++ bs) =
      none :: some c :: utf8Read halves none bs := by
  rw [← utf8Read_utf8Char halves c bs]
  obtain ⟨b, r, hc, hb⟩ := utf8Char_head c
  have hlow := hp.low_ge
  have hhigh := hp.high_le
  have hout : ¬ (p.low ≤ b.toNat ∧ b.toNat ≤ p.high) := by omega
  rw [hc]
  simp only [List.cons_append, utf8Read, utf8Step, utf8Continue, if_neg hout]

theorem utf8Read_char_length (hp : ∀ p ∈ pending, p.Continues) (c : Char) (bs : Bytes) :
    (utf8Read halves pending (utf8Char c ++ bs)).length =
      (utf8Read halves none bs).length + 1 + pending.toList.length := by
  cases pending with
  | none => simp [utf8Read_utf8Char]
  | some p => simp [utf8Read_interrupted (hp p rfl)]

end Reading

namespace Url

/-- An escape stands at the front of a text. -/
def isEscape : List Char → Bool
  | '%' :: a :: b :: _ => (hexValue? a).isSome && (hexValue? b).isSome
  | _ => false

/-- An escape stands somewhere in a text. -/
def hasEscape : List Char → Bool
  | [] => false
  | c :: r => isEscape (c :: r) || hasEscape r

theorem unescapeBytes_char {c : Char} {r : List Char} (h : isEscape (c :: r) = false) :
    unescapeBytes (c :: r) = utf8Char c ++ unescapeBytes r := by
  by_cases hc : c = '%'
  · subst hc
    match r with
    | [] | [_] => simp [unescapeBytes]
    | a :: b :: r =>
      have hp : utf8Char '%' = [UInt8.ofNat 37] := rfl
      cases ha : hexValue? a <;> cases hb : hexValue? b <;>
        simp_all [unescapeBytes, isEscape]
  · simp [unescapeBytes, hc]

theorem unescapeBytes_escape {s : List Char} (h : isEscape s = true) :
    ∃ a b r n, s = '%' :: a :: b :: r ∧ unescapeBytes s = UInt8.ofNat n :: unescapeBytes r := by
  unfold isEscape at h
  split at h
  next a b r =>
    rw [Bool.and_eq_true, Option.isSome_iff_exists, Option.isSome_iff_exists] at h
    obtain ⟨⟨m, ha⟩, ⟨n, hb⟩⟩ := h
    exact ⟨a, b, r, 16 * m + n, rfl, by simp [unescapeBytes, ha, hb]⟩
  next => cases h

theorem unescapeBytes_eq_encode {s : List Char} (h : hasEscape s = false) :
    unescapeBytes s = utf8Encode s := by
  induction s with
  | nil => rfl
  | cons c r ih =>
    simp only [hasEscape, Bool.or_eq_false_iff] at h
    rw [unescapeBytes_char h.1, ih h.2]
    rfl

/-- The length of what is read, with one more for a sequence under way and one less if there was an
escape. -/
theorem utf8Read_unescapeBytes_length (halves : Bool) (pending : Option Utf8Pending)
    (hp : ∀ p ∈ pending, p.Continues) (s : List Char) :
    (utf8Read halves pending (unescapeBytes s)).length + (hasEscape s).toNat ≤
      s.length + pending.toList.length := by
  induction hn : s.length using Nat.strongRecOn generalizing s pending with
  | ind n ih =>
    cases s with
    | nil => cases pending <;> simp [unescapeBytes, utf8Read, hasEscape]
    | cons c r =>
      cases he : isEscape (c :: r) with
      | true =>
        obtain ⟨a, b, t, m, hs, hu⟩ := unescapeBytes_escape he
        have hr : r = a :: b :: t := by
          cases hs
          rfl
        have hl : t.length + 3 = n := by simp [← hn, hr]
        have hstep := utf8Step_length halves pending (UInt8.ofNat m).toNat
        have hnext : ∀ p ∈ (utf8Step halves pending (UInt8.ofNat m).toNat).2, p.Continues :=
          fun p hp => utf8Step_continues hp
        have hrest := ih t.length (by omega) _ hnext t rfl
        have hbool := Bool.toNat_le (hasEscape (c :: r))
        rw [hu]
        simp only [utf8Read, List.length_append]
        omega
      | false =>
        have hrest := ih r.length (by simp [← hn]) none (by simp) r rfl
        simp only [Option.toList_none, List.length_nil] at hrest
        rw [unescapeBytes_char he, utf8Read_char_length hp]
        simp only [hasEscape, he, Bool.false_or]
        have hl : r.length + 1 = n := by simpa using hn
        omega

theorem unescape_length (s : List Char) : (unescape s).length + (hasEscape s).toNat ≤ s.length := by
  have h := utf8Read_unescapeBytes_length false none (by simp) s
  simpa [unescape, withReplacement] using h

theorem unescape_eq_self_iff {s : List Char} : unescape s = s ↔ hasEscape s = false := by
  constructor
  · intro h
    have hl := unescape_length s
    rw [h] at hl
    cases he : hasEscape s with
    | false => rfl
    | true =>
      rw [he] at hl
      exact (Nat.not_succ_le_self _ hl).elim
  · intro h
    rw [unescape, unescapeBytes_eq_encode h, utf8Read_encode]
    simp [withReplacement, Function.comp_def]

/-- No escape reaches across a slash. -/
theorem hasEscape_slash (s t : List Char) :
    hasEscape (s ++ '/' :: t) = (hasEscape s || hasEscape t) := by
  have hslash : hexValue? '/' = none := rfl
  induction s with
  | nil => rfl
  | cons c r ih =>
    have hc : isEscape (c :: (r ++ '/' :: t)) = isEscape (c :: r) := by
      by_cases hc : c = '%'
      · subst hc
        match r with
        | [] => cases t <;> simp [isEscape, hslash]
        | [a] => simp [isEscape, hslash]
        | a :: b :: r => rfl
      · simp [isEscape, hc]
    rw [List.cons_append, hasEscape, hc, ih, hasEscape, Bool.or_assoc]

end Url

end Courier
