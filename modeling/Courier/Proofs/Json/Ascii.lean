import Courier.Json.Printer
import Courier.Proofs.Number.Digits

/-! JSON text is printable ASCII, so it stays on one line. -/

namespace Courier

/-- A character from the space to the tilde. -/
def Visible (c : Char) : Prop := 32 ≤ c.toNat ∧ c.toNat ≤ 126

instance (c : Char) : Decidable (Visible c) := inferInstanceAs (Decidable (_ ∧ _))

theorem visible_of_all {s : List Char} (h : s.all (fun c => decide (Visible c)) = true) :
    ∀ c ∈ s, Visible c :=
  fun c hc => of_decide_eq_true (List.all_eq_true.mp h c hc)

theorem visible_digit {c : Char} (h : isDigit c = true) : Visible c := by
  obtain ⟨h0, h9⟩ := of_decide_eq_true h
  have hfirst : 48 ≤ c.toNat := h0
  have hlast : c.toNat ≤ 57 := h9
  exact ⟨by omega, by omega⟩

theorem visible_natDigits (n : Nat) : ∀ c ∈ natDigits n, Visible c :=
  fun c hc => visible_digit (isDigit_of_mem_natDigits n c hc)

theorem visible_hexDigit (n : Nat) : Visible (hexDigit n) := by
  have h : ∀ d < 16, Visible (if d < 10 then Char.ofNat (48 + d) else Char.ofNat (87 + d)) := by
    decide
  exact h (n % 16) (Nat.mod_lt n (by omega))

section Floats

variable {ds : List Char}

theorem visible_replicate_zero (n : Nat) : ∀ c ∈ List.replicate n '0', Visible c := by
  intro c hc
  rw [List.eq_of_mem_replicate hc]
  decide

theorem visible_exponentDigits (e : Int) : ∀ c ∈ exponentDigits e, Visible c := by
  have hds := visible_natDigits e.natAbs
  have hsign : Visible (if e < 0 then '-' else '+') := by split <;> decide
  rw [exponentDigits, List.forall_mem_cons]
  refine ⟨hsign, ?_⟩
  split
  · exact List.forall_mem_cons.mpr ⟨by decide, hds⟩
  · exact hds

theorem visible_layout (e : Int) (h : ∀ c ∈ ds, Visible c) : ∀ c ∈ layout ds e, Visible c := by
  have hzeros := visible_replicate_zero
  have hpoint : Visible '.' := by decide
  have hzero : Visible '0' := by decide
  have hmark : Visible 'e' := by decide
  have hexponent := visible_exponentDigits e
  have htake (n : Nat) : ∀ c ∈ ds.take n, Visible c := fun c hc => h c (List.mem_of_mem_take hc)
  have hdrop (n : Nat) : ∀ c ∈ ds.drop n, Visible c := fun c hc => h c (List.mem_of_mem_drop hc)
  unfold layout
  split
  · split
    · simp only [List.forall_mem_cons, List.forall_mem_append]
      exact ⟨hzero, hpoint, hzeros _, h⟩
    · simp only [List.forall_mem_cons, List.forall_mem_append]
      refine ⟨⟨htake _, hzeros _⟩, hpoint, ?_⟩
      split
      · simpa using hzero
      · exact hdrop _
  · split
    · simp
    · simp only [List.forall_mem_cons] at h ⊢
      exact ⟨h.1, hmark, hexponent⟩
    · simp only [List.forall_mem_cons, List.forall_mem_append] at h ⊢
      exact ⟨h.1, hpoint, h.2, hmark, hexponent⟩

theorem visible_scientific (x : Decimal) : ∀ c ∈ x.scientific.1, Visible c := by
  intro c hc
  have hkept : c ∈ natDigits x.digits := by
    have hdropped := (List.dropWhile_suffix _).subset (List.mem_reverse.mp hc)
    exact List.mem_reverse.mp hdropped
  exact visible_natDigits _ c hkept

theorem visible_printFloat (x : Double) : ∀ c ∈ Json.printFloat x, Visible c := by
  cases x with
  | nan => exact visible_of_all rfl
  | infinite s => cases s <;> exact visible_of_all rfl
  | negativeZero => exact visible_of_all rfl
  | finite q =>
    have hdigits := visible_scientific (shortestDecimal (if q < 0 then -q else q))
    have hlayout := visible_layout (shortestDecimal (if q < 0 then -q else q)).scientific.2 hdigits
    have hminus : Visible '-' := by decide
    simp only [Json.printFloat, Double.text]
    split
    · exact visible_of_all rfl
    · rw [String.toList_ofList, List.forall_mem_append]
      refine ⟨?_, hlayout⟩
      split
      · simpa using hminus
      · simp

end Floats

namespace Json

theorem visible_unitEscape (n : Nat) : ∀ c ∈ unitEscape n, Visible c := by
  have hback : Visible '\\' := by decide
  have hu : Visible 'u' := by decide
  simp only [unitEscape, List.forall_mem_cons]
  refine ⟨hback, hu, fun c hc => ?_⟩
  simp only [hexDigits, List.mem_reverse, List.mem_map] at hc
  obtain ⟨i, -, rfl⟩ := hc
  exact visible_hexDigit _

theorem visible_escapeChar (c : Char) : ∀ d ∈ escapeChar c, Visible d := by
  have hback : Visible '\\' := by decide
  have hunit := visible_unitEscape
  unfold escapeChar
  split
  · next hc =>
    rcases hc with rfl | rfl <;> exact visible_of_all rfl
  iterate 5
    split
    · exact visible_of_all rfl
  split
  · next hc => exact List.forall_mem_singleton.mpr hc
  split
  · exact hunit _
  · exact List.forall_mem_append.mpr ⟨hunit _, hunit _⟩

theorem visible_printString (s : String) : ∀ c ∈ printString s, Visible c := by
  have hquote : Visible '"' := by decide
  have hchars : ∀ c ∈ s.toList.flatMap escapeChar, Visible c := by
    intro c hc
    obtain ⟨d, -, hd⟩ := List.mem_flatMap.mp hc
    exact visible_escapeChar d c hd
  rw [printString, List.forall_mem_cons, List.forall_mem_append, List.forall_mem_singleton]
  exact ⟨hquote, hchars, hquote⟩

mutual

theorem visible_print : (v : Json) → ∀ c ∈ v.print, Visible c
  | .null => visible_of_all rfl
  | .bool b => by cases b <;> exact visible_of_all rfl
  | .int (.ofNat n) => visible_natDigits n
  | .int (.negSucc n) => List.forall_mem_cons.mpr ⟨by decide, visible_natDigits (n + 1)⟩
  | .float x => visible_printFloat x
  | .str s => visible_printString s
  | .arr xs => by
    have hxs := visible_printItems xs
    have hopen : Visible '[' := by decide
    have hclose : Visible ']' := by decide
    simp only [print, List.forall_mem_cons, List.forall_mem_append]
    exact ⟨hopen, hxs, hclose, List.forall_mem_nil _⟩
  | .obj es => by
    have hes := visible_printEntries es
    have hopen : Visible '\x7b' := by decide
    have hclose : Visible '\x7d' := by decide
    simp only [print, List.forall_mem_cons, List.forall_mem_append]
    exact ⟨hopen, hes, hclose, List.forall_mem_nil _⟩

theorem visible_printItems : (xs : List Json) → ∀ c ∈ printItems xs, Visible c
  | [] => by simp [printItems]
  | [x] => visible_print x
  | x :: y :: xs => by
    have hx := visible_print x
    have hxs := visible_printItems (y :: xs)
    have hcomma : Visible ',' := by decide
    have hspace : Visible ' ' := by decide
    simp only [printItems, List.forall_mem_cons, List.forall_mem_append]
    exact ⟨hx, hcomma, hspace, hxs⟩

theorem visible_printEntries : (es : List (String × Json)) → ∀ c ∈ printEntries es, Visible c
  | [] => by simp [printEntries]
  | [(k, v)] => by
    have hk := visible_printString k
    have hv := visible_print v
    have hcolon : Visible ':' := by decide
    have hspace : Visible ' ' := by decide
    simp only [printEntries, List.forall_mem_cons, List.forall_mem_append]
    exact ⟨hk, hcolon, hspace, hv⟩
  | (k, v) :: e :: es => by
    have hk := visible_printString k
    have hv := visible_print v
    have hes := visible_printEntries (e :: es)
    have hcolon : Visible ':' := by decide
    have hcomma : Visible ',' := by decide
    have hspace : Visible ' ' := by decide
    simp only [printEntries, List.forall_mem_cons, List.forall_mem_append]
    exact ⟨hk, hcolon, hspace, hv, hcomma, hspace, hes⟩

end

end Json

end Courier
