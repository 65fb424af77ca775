import Courier.Proofs.Text.Parts
import Courier.Proofs.Url.Percent
import Courier.Url.Query

/-! Forms read back. A form may write a character in more than one way, but the text is the same for all
of them, and no way of writing it has a character that divides the parts of a URL. -/

namespace Courier.Url

/-- The escapes of bytes, with hexadecimal digits of either case. -/
inductive Escapes : Bytes → List Char → Prop
  | nil : Escapes [] []
  | cons {b : UInt8} {bs : Bytes} {h l : Char} {w : List Char}
      (hh : hexValue? h = some (b.toNat / 16)) (hl : hexValue? l = some (b.toNat % 16))
      (rest : Escapes bs w) : Escapes (b :: bs) ('%' :: h :: l :: w)

/-- A text and what a form may write for it. -/
inductive FieldWritten : List Char → List Char → Prop
  | nil : FieldWritten [] []
  | plain {c : Char} {s w : List Char} (h : isUnreserved c = true) (rest : FieldWritten s w) :
    FieldWritten (c :: s) (c :: w)
  | plus {s w : List Char} (rest : FieldWritten s w) : FieldWritten (' ' :: s) ('+' :: w)
  | escaped {c : Char} {s e w : List Char} (h : Escapes (utf8Char c) e) (rest : FieldWritten s w) :
    FieldWritten (c :: s) (e ++ w)

/-- A name and a value with an equals sign between them. -/
def PairWritten (p : List Char × List Char) (w : List Char) : Prop :=
  ∃ k v, FieldWritten p.1 k ∧ FieldWritten p.2 v ∧ w = k ++ '=' :: v

/-- Pairs with ampersands between them. -/
def QueryWritten (ps : List (List Char × List Char)) (query : List Char) : Prop :=
  ∃ rows : List ((List Char × List Char) × List Char), (∀ row ∈ rows, PairWritten row.1 row.2) ∧
    ps = rows.map (·.1) ∧ query = ['&'].intercalate (rows.map (·.2))

section Characters

variable {c : Char}

/-- A character that may stand in a field as it is written. -/
def isFieldChar (c : Char) : Bool := isUnreserved c || c == '+' || c == '%'

theorem forall_ascii {P : Char → Prop} (h : ∀ n < 128, P (Char.ofNat n)) (hc : c.toNat < 128) :
    P c := by
  have hn := h c.toNat hc
  rwa [Char.ofNat_toNat] at hn

theorem isAlphanum_ascii (h : c.isAlphanum = true) : c.toNat < 128 := by
  rcases Bool.or_eq_true_iff.mp h with h | h
  · rcases Bool.or_eq_true_iff.mp h with h | h
    · exact Nat.lt_of_le_of_lt (UInt32.le_iff_toNat_le.mp (of_decide_eq_true h).2) (by decide)
    · have hle := of_decide_eq_true (Bool.and_eq_true_iff.mp h).2
      exact Nat.lt_of_le_of_lt (UInt32.le_iff_toNat_le.mp hle) (by decide)
  · have hle := of_decide_eq_true (Bool.and_eq_true_iff.mp h).2
    exact Nat.lt_of_le_of_lt (UInt32.le_iff_toNat_le.mp hle) (by decide)

theorem isFieldChar_ascii (h : isFieldChar c = true) : c.toNat < 128 := by
  simp only [isFieldChar, isUnreserved, Bool.or_eq_true, beq_iff_eq] at h
  rcases h with (((((h | rfl) | rfl) | rfl) | rfl) | rfl) | rfl
  · exact isAlphanum_ascii h
  all_goals decide

theorem isFieldChar_kept (h : isFieldChar c = true) :
    keepInQuery c = true ∧ c ≠ '&' ∧ c ≠ '=' := by
  have hall : ∀ n < 128, isFieldChar (Char.ofNat n) = true →
      keepInQuery (Char.ofNat n) = true ∧ Char.ofNat n ≠ '&' ∧ Char.ofNat n ≠ '=' := by
    decide +kernel
  exact forall_ascii (P := fun c => isFieldChar c = true → keepInQuery c = true ∧ c ≠ '&' ∧ c ≠ '=')
    hall (isFieldChar_ascii h) h

theorem isUnreserved_of_hexValue? {n : Nat} (h : hexValue? c = some n) : isUnreserved c = true := by
  have hascii : c.toNat < 128 := by
    unfold hexValue? at h
    split_ifs at h with h1 h2 h3
    · exact Nat.lt_of_le_of_lt h1.2 (by decide)
    · exact Nat.lt_of_le_of_lt h2.2 (by decide)
    · exact Nat.lt_of_le_of_lt h3.2 (by decide)
  have hall : ∀ n < 128, (hexValue? (Char.ofNat n)).isSome → isUnreserved (Char.ofNat n) = true := by
    decide +kernel
  exact forall_ascii (P := fun c => (hexValue? c).isSome → isUnreserved c = true) hall hascii
    (by rw [h]; rfl)

theorem isUnreserved_ne (h : isUnreserved c = true) : c ≠ '%' ∧ c ≠ '+' := by
  constructor <;> rintro rfl <;> cases h

end Characters

section Fields

variable {bs : Bytes} {s w : List Char}

theorem Escapes.unescapeBytes_append (h : Escapes bs w) (r : List Char) :
    unescapeBytes (w ++ r) = bs ++ unescapeBytes r := by
  induction h with
  | nil => rfl
  | @cons b bs h l w hh hl rest ih =>
    have hb : UInt8.ofNat (16 * (b.toNat / 16) + b.toNat % 16) = b := by
      rw [Nat.div_add_mod, UInt8.ofNat_toNat]
    simp only [List.cons_append, unescapeBytes, hh, hl, hb, ih]

theorem Escapes.plusToSpace_eq (h : Escapes bs w) : plusToSpace w = w := by
  induction h with
  | nil => rfl
  | cons hh hl rest ih =>
    have hh' := (isUnreserved_ne (isUnreserved_of_hexValue? hh)).2
    have hl' := (isUnreserved_ne (isUnreserved_of_hexValue? hl)).2
    simp only [plusToSpace, List.map_cons, if_neg hh', if_neg hl'] at ih ⊢
    rw [ih]
    rfl

theorem Escapes.isFieldChar (h : Escapes bs w) : ∀ c ∈ w, isFieldChar c = true := by
  induction h with
  | nil => simp
  | cons hh hl rest ih =>
    have hh' := isUnreserved_of_hexValue? hh
    have hl' := isUnreserved_of_hexValue? hl
    simp only [List.forall_mem_cons]
    exact ⟨rfl, by simp [Url.isFieldChar, hh'], by simp [Url.isFieldChar, hl'], ih⟩

theorem FieldWritten.isFieldChar (h : FieldWritten s w) : ∀ c ∈ w, isFieldChar c = true := by
  induction h with
  | nil => simp
  | plain h rest ih => exact List.forall_mem_cons.mpr ⟨by simp [Url.isFieldChar, h], ih⟩
  | plus rest ih => exact List.forall_mem_cons.mpr ⟨rfl, ih⟩
  | escaped h rest ih => exact List.forall_mem_append.mpr ⟨h.isFieldChar, ih⟩

theorem unescapeBytes_cons_ne {c : Char} (h : c ≠ '%') (r : List Char) :
    unescapeBytes (c :: r) = utf8Char c ++ unescapeBytes r :=
  unescapeBytes_char (by simp [isEscape, h])

theorem FieldWritten.unescapeBytes_eq (h : FieldWritten s w) :
    unescapeBytes (plusToSpace w) = utf8Encode s := by
  induction h with
  | nil => rfl
  | @plain c s w h rest ih =>
    obtain ⟨hpercent, hplus⟩ := isUnreserved_ne h
    have hc : plusToSpace (c :: w) = c :: plusToSpace w := by simp [plusToSpace, hplus]
    rw [hc, unescapeBytes_cons_ne hpercent, ih]
    rfl
  | @plus s w rest ih =>
    have hc : plusToSpace ('+' :: w) = ' ' :: plusToSpace w := rfl
    rw [hc, unescapeBytes_cons_ne (by decide), ih]
    rfl
  | @escaped c s e w h rest ih =>
    have hc : plusToSpace (e ++ w) = e ++ plusToSpace w := by
      rw [plusToSpace, List.map_append]
      exact congrArg (· ++ _) h.plusToSpace_eq
    rw [hc, h.unescapeBytes_append, ih]
    rfl

theorem FieldWritten.formField_eq (h : FieldWritten s w) : formField w = s := by
  rw [formField, unescape, h.unescapeBytes_eq, utf8Read_encode]
  simp [withReplacement, Function.comp_def]

theorem fieldWritten_self (h : s.all isUnreserved = true) : FieldWritten s s := by
  induction s with
  | nil => exact .nil
  | cons c s ih =>
    rw [List.all_cons, Bool.and_eq_true] at h
    exact .plain h.1 (ih h.2)

end Fields

section Marks

variable {mark : Char} {s : List Char}

theorem splitMark_of_notMem (h : mark ∉ s) : splitMark mark s = (s, none) := by
  obtain ⟨htake, hdrop⟩ := span_of_notMem h
  simp only [splitMark, htake, hdrop]

theorem splitMark_append (h : mark ∉ s) (t : List Char) :
    splitMark mark (s ++ mark :: t) = (s, some t) := by
  have hmark : ∀ c ∈ (mark :: t).head?, c = mark := by simp
  obtain ⟨htake, hdrop⟩ := span_mark h hmark
  simp only [splitMark, htake, hdrop]

theorem splitAt_cons (c d : Char) (s : List Char) :
    splitAt c (d :: s) =
      if d = c then [] :: splitAt c s else (splitAt c s).modifyHead (d :: ·) := by
  have hne : splitAt c s ≠ [] := by
    cases s with
    | nil => simp [splitAt]
    | cons e s =>
      simp only [splitAt, List.foldr_cons]
      split_ifs
      · simp
      · split <;> simp
  unfold splitAt at hne ⊢
  rw [List.foldr_cons]
  generalize s.foldr _ [[]] = parts at hne ⊢
  cases parts with
  | nil => exact (hne rfl).elim
  | cons p ps => rfl

theorem splitAt_eq_splitOn (c : Char) (s : List Char) : splitAt c s = s.splitOn c := by
  induction s with
  | nil => rfl
  | cons d s ih =>
    have hcons := List.splitOnP_cons_eq_if_modifyHead (p := (· == c)) d s
    rw [splitAt_cons, ih]
    simpa [List.splitOn] using hcons.symm

end Marks

section Queries

variable {p : List Char × List Char} {ps : List (List Char × List Char)} {w query : List Char}

theorem PairWritten.kept (h : PairWritten p w) :
    w ≠ [] ∧ '&' ∉ w ∧ ∀ c ∈ w, keepInQuery c = true := by
  obtain ⟨k, v, hk, hv, rfl⟩ := h
  have hfield {s w : List Char} (h : FieldWritten s w) :
      '&' ∉ w ∧ ∀ c ∈ w, keepInQuery c = true := by
    refine ⟨fun hm => ?_, fun c hc => (isFieldChar_kept (h.isFieldChar c hc)).1⟩
    exact (isFieldChar_kept (h.isFieldChar _ hm)).2.1 rfl
  obtain ⟨hka, hkq⟩ := hfield hk
  obtain ⟨hva, hvq⟩ := hfield hv
  refine ⟨by simp, by simp [hka, hva], ?_⟩
  exact List.forall_mem_append.mpr ⟨hkq, List.forall_mem_cons.mpr ⟨by decide, hvq⟩⟩

theorem PairWritten.formPair_eq (h : PairWritten p w) : formPair w = p := by
  obtain ⟨k, v, hk, hv, rfl⟩ := h
  have hequals : '=' ∉ k := fun hm => (isFieldChar_kept (hk.isFieldChar _ hm)).2.2 rfl
  simp only [formPair, splitMark_append hequals, Option.getD_some, hk.formField_eq, hv.formField_eq]

theorem QueryWritten.formPairs_eq (h : QueryWritten ps query) : formPairs query = ps := by
  obtain ⟨rows, hrows, rfl, rfl⟩ := h
  by_cases hnil : rows = []
  · subst hnil
    rfl
  · have hmarks : ∀ w ∈ rows.map (·.2), '&' ∉ w := by
      simp only [List.forall_mem_map]
      exact fun row hrow => (hrows row hrow).kept.2.1
    have hkeep : (rows.map (·.2)).filter (!·.isEmpty) = rows.map (·.2) := by
      rw [List.filter_eq_self]
      simp only [List.forall_mem_map]
      intro row hrow
      simpa using (hrows row hrow).kept.1
    rw [formPairs, splitAt_eq_splitOn, List.splitOn_intercalate '&' hmarks (by simpa using hnil),
      hkeep, List.map_map]
    apply List.map_congr_left
    intro row hrow
    exact (hrows row hrow).formPair_eq

theorem forall_mem_intercalate {α : Type} {P : α → Prop} {sep : List α} {ws : List (List α)}
    (hs : ∀ c ∈ sep, P c) (hw : ∀ w ∈ ws, ∀ c ∈ w, P c) : ∀ c ∈ sep.intercalate ws, P c := by
  induction ws with
  | nil => simp
  | cons w ws ih =>
    obtain ⟨hfirst, hrest⟩ := List.forall_mem_cons.mp hw
    cases ws with
    | nil => simpa using hfirst
    | cons v ws =>
      rw [List.intercalate_cons_cons, List.append_assoc]
      exact List.forall_mem_append.mpr ⟨hfirst, List.forall_mem_append.mpr ⟨hs, ih hrest⟩⟩

theorem QueryWritten.kept (h : QueryWritten ps query) : ∀ c ∈ query, keepInQuery c = true := by
  obtain ⟨rows, hrows, rfl, rfl⟩ := h
  refine forall_mem_intercalate (List.forall_mem_singleton.mpr rfl) ?_
  simp only [List.forall_mem_map]
  exact fun row hrow => (hrows row hrow).kept.2.2

end Queries

/-- A path of unreserved characters that begins with one slash only. -/
structure PlainPath (path : List Char) : Prop where
  chars : ∀ c ∈ path, isUnreserved c = true ∨ c = '/'
  slash : ∃ r, path = '/' :: r ∧ r.head? ≠ some '/'

section References

variable {path query s : List Char} {ps : List (List Char × List Char)}

theorem escape_eq_self {keep : Char → Bool} (h : ∀ c ∈ s, keep c = true) : escape keep s = s := by
  induction s with
  | nil => rfl
  | cons c s ih =>
    obtain ⟨hc, hs⟩ := List.forall_mem_cons.mp h
    have hcons : escape keep (c :: s) = escapeUnless keep c ++ escape keep s := rfl
    rw [hcons, escapeUnless, if_pos hc, ih hs]
    rfl

theorem unprintableAt?_eq_none (h : ∀ c ∈ s, keepInQuery c = true) (i : Nat) :
    unprintableAt? i s = none := by
  induction s generalizing i with
  | nil => rfl
  | cons c s ih =>
    obtain ⟨hc, hs⟩ := List.forall_mem_cons.mp h
    have hvisible : ¬ (c < ' ' ∨ c = '\x7f') := by
      simp only [keepInQuery, visibleBut, Bool.and_eq_true, decide_eq_true_eq] at hc
      rintro (hlt | rfl)
      · exact absurd (Nat.lt_of_le_of_lt hc.1.1 hlt) (by decide)
      · exact absurd hc.1.2 (by decide)
    rw [unprintableAt?, if_neg hvisible, ih hs]

theorem PlainPath.kept (h : PlainPath path) :
    '?' ∉ path ∧ ∀ c ∈ path, keepInPath c = true ∧ keepInQuery c = true := by
  have hall : ∀ n < 128, isUnreserved (Char.ofNat n) = true → Char.ofNat n ≠ '?' ∧
      keepInPath (Char.ofNat n) = true ∧ keepInQuery (Char.ofNat n) = true := by
    decide +kernel
  have hchar : ∀ c ∈ path, c ≠ '?' ∧ keepInPath c = true ∧ keepInQuery c = true := by
    intro c hc
    rcases h.chars c hc with hu | rfl
    · have hascii : c.toNat < 128 := isFieldChar_ascii (by simp [isFieldChar, hu])
      exact forall_ascii (P := fun c => isUnreserved c = true → c ≠ '?' ∧ keepInPath c = true ∧
        keepInQuery c = true) hall hascii hu
    · decide
  exact ⟨fun hm => (hchar '?' hm).1 rfl, fun c hc => (hchar c hc).2⟩

theorem split_reference (hp : PlainPath path) (hq : ∀ c ∈ query, keepInQuery c = true) :
    split (path ++ '?' :: query) = ⟨[], [], path, some query, none⟩ := by
  have hquestion := hp.kept.1
  have hnumber : '#' ∉ path ++ '?' :: query := by
    have hall : ∀ c ∈ path ++ '?' :: query, keepInQuery c = true :=
      List.forall_mem_append.mpr ⟨fun c hc => (hp.kept.2 c hc).2,
        List.forall_mem_cons.mpr ⟨by decide, hq⟩⟩
    intro hm
    exact absurd (hall '#' hm) (by decide)
  have hscheme : splitScheme (path ++ '?' :: query) = ([], path ++ '?' :: query) := by
    obtain ⟨r, rfl, -⟩ := hp.slash
    rfl
  have hauthority : splitAuthority (path ++ '?' :: query) = ([], path ++ '?' :: query) := by
    obtain ⟨r, rfl, hr⟩ := hp.slash
    cases r with
    | nil => rfl
    | cons c r =>
      have hc : c ≠ '/' := by simpa using hr
      simp [splitAuthority, hc]
  simp only [split, hscheme, hauthority, splitMark_of_notMem hnumber, splitMark_append hquestion]

theorem ofChars?_reference (hp : PlainPath path) (hq : ∀ c ∈ query, keepInQuery c = true)
    (hlen : (path ++ '?' :: query).length ≤ 65536) :
    ofChars? (path ++ '?' :: query) = .ok ⟨[], [], [], none, path, some query, none⟩ := by
  have hall : ∀ c ∈ path ++ '?' :: query, keepInQuery c = true :=
    List.forall_mem_append.mpr ⟨fun c hc => (hp.kept.2 c hc).2,
      List.forall_mem_cons.mpr ⟨by decide, hq⟩⟩
  have hpath : escape keepInPath path = path := escape_eq_self fun c hc => (hp.kept.2 c hc).1
  have htake : (path.take 2 == ['/', '/']) = false := by
    obtain ⟨r, rfl, hr⟩ := hp.slash
    cases r with
    | nil => rfl
    | cons c r => simpa using hr
  have hhead : (path.head? == some ':') = false := by
    obtain ⟨r, rfl, -⟩ := hp.slash
    rfl
  have hquery : escape keepInQuery query = query := escape_eq_self hq
  have hhost : splitHost [] = ([], [], []) := rfl
  have huser : escape keepInUser [] = [] := rfl
  have hempty : encodeHost [] = .ok [] := rfl
  have hport : normalPort [] [] = .ok none := rfl
  simp only [ofChars?, if_neg (Nat.not_lt.mpr hlen), unprintableAt?_eq_none hall,
    split_reference hp hq, hhost, huser, hempty, hport, bind, Except.bind]
  simp [htake, hhead, hpath, hquery]

theorem parameter?_reference {url : String} (hu : url.toList = path ++ '?' :: query)
    (hp : PlainPath path) (hq : QueryWritten ps query) (hlen : url.toList.length ≤ 65536)
    (name : String) :
    parameter? url name =
      .ok ((ps.find? (·.1 == name.toList)).map fun p => String.ofList p.2) := by
  have hurl : ofString? url = .ok ⟨[], [], [], none, path, some query, none⟩ := by
    rw [ofString?, hu]
    rw [hu] at hlen
    exact ofChars?_reference hp hq.kept hlen
  simp only [parameter?, hurl, bind, Except.bind, Option.getD_some, hq.formPairs_eq]

end References

end Courier.Url
