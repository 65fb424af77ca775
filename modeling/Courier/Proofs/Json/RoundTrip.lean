import Courier.Proofs.Entries
import Courier.Proofs.Json.Floats
import Courier.Shape.Model

/-! JSON text read back. A value that nests no deeper than a reader admits comes back as it was
written. The induction is on the value; what stands behind it only has to end it. -/

namespace Courier

namespace Json

/-- A value whose integers have at most so many digits, whose floats are binary64 numbers, whose
objects have no key twice, and which nests at most so deep. -/
inductive Fits (digits : Nat) : Nat → Json → Prop
  | null {depth : Nat} : Fits digits depth .null
  | bool {depth : Nat} (b : Bool) : Fits digits depth (.bool b)
  | int {depth : Nat} {n : Int} (h : (natDigits n.natAbs).length ≤ digits) :
    Fits digits depth (.int n)
  | float {depth : Nat} {x : Double} (h : x.IsBinary64) : Fits digits depth (.float x)
  | str {depth : Nat} (s : String) : Fits digits depth (.str s)
  | arr {depth : Nat} {xs : List Json} (h : ∀ x ∈ xs, Fits digits depth x) :
    Fits digits (depth + 1) (.arr xs)
  | obj {depth : Nat} {es : List (String × Json)} (hk : (es.map (·.1)).Nodup)
    (h : ∀ e ∈ es, Fits digits depth e.2) : Fits digits (depth + 1) (.obj es)

theorem Fits.mono {digits digits' depth depth' : Nat} {v : Json} (h : Fits digits depth v)
    (hdigits : digits ≤ digits') (hdepth : depth ≤ depth') : Fits digits' depth' v := by
  induction h generalizing depth' with
  | null => exact .null
  | bool b => exact .bool b
  | int h => exact .int (h.trans hdigits)
  | float h => exact .float h
  | str s => exact .str s
  | arr h ih =>
    obtain ⟨d, rfl⟩ : ∃ d, depth' = d + 1 := ⟨depth' - 1, by omega⟩
    exact .arr fun x hx => ih x hx (by omega)
  | obj hk h ih =>
    obtain ⟨d, rfl⟩ : ∃ d, depth' = d + 1 := ⟨depth' - 1, by omega⟩
    exact .obj hk fun e he => ih e he (by omega)

/-- A value that JSON can write: its floats are finite binary64 numbers, and its objects have no key
twice. -/
inductive Writable : Json → Prop
  | null : Writable .null
  | bool (b : Bool) : Writable (.bool b)
  | int (n : Int) : Writable (.int n)
  | float {x : Double} (h : x.IsBinary64) (hfinite : x.isFinite = true) : Writable (.float x)
  | str (s : String) : Writable (.str s)
  | arr {xs : List Json} (h : ∀ x ∈ xs, Writable x) : Writable (.arr xs)
  | obj {es : List (String × Json)} (hk : (es.map (·.1)).Nodup) (h : ∀ e ∈ es, Writable e.2) :
    Writable (.obj es)

theorem exists_fits_all {α : Type} (f : α → Json) {as : List α}
    (h : ∀ a ∈ as, ∃ digits depth, Fits digits depth (f a)) :
    ∃ digits depth, ∀ a ∈ as, Fits digits depth (f a) := by
  induction as with
  | nil => exact ⟨0, 0, fun a ha => nomatch ha⟩
  | cons a as ih =>
    obtain ⟨d, n, ha⟩ := h a List.mem_cons_self
    obtain ⟨d', n', has⟩ := ih fun b hb => h b (List.mem_cons_of_mem _ hb)
    refine ⟨max d d', max n n', List.forall_mem_cons.mpr ⟨?_, fun b hb => ?_⟩⟩
    · exact ha.mono (Nat.le_max_left d d') (Nat.le_max_left n n')
    · exact (has b hb).mono (Nat.le_max_right d d') (Nat.le_max_right n n')

theorem Writable.exists_fits {v : Json} (h : Writable v) : ∃ digits depth, Fits digits depth v := by
  induction h with
  | null => exact ⟨0, 0, .null⟩
  | bool b => exact ⟨0, 0, .bool b⟩
  | int n => exact ⟨_, 0, .int (Nat.le_refl _)⟩
  | float h => exact ⟨0, 0, .float h⟩
  | str s => exact ⟨0, 0, .str s⟩
  | arr h ih =>
    obtain ⟨d, n, hall⟩ := exists_fits_all id ih
    exact ⟨d, n + 1, .arr hall⟩
  | obj hk h ih =>
    obtain ⟨d, n, hall⟩ := exists_fits_all (fun e : String × Json => e.2) ih
    exact ⟨d, n + 1, .obj hk hall⟩

/-- A character that a value may begin with, as far as blanks and closing brackets go. -/
structure Opens (c : Char) : Prop where
  notBlank : isJsonBlank c = false
  notBracket : c ≠ ']'
  notBrace : c ≠ '}'

section Heads

variable {digits depth : Nat}

theorem opens_digit {c : Char} (h : isDigit c = true) : Opens c := by
  refine ⟨?_, ?_, ?_⟩
  · simp only [isJsonBlank, Bool.or_eq_false_iff, beq_eq_false_iff_ne]
    refine ⟨⟨⟨?_, ?_⟩, ?_⟩, ?_⟩ <;> rintro rfl <;> cases h
  · rintro rfl
    cases h
  · rintro rfl
    cases h

theorem intDigits_head (n : Int) :
    ∃ c r, intDigits n = c :: r ∧ (isDigit c = true ∨ c = '-') := by
  cases n with
  | ofNat m =>
    obtain ⟨c, r, hc, hd⟩ := natDigits_head m
    exact ⟨c, r, hc, .inl hd⟩
  | negSucc m => exact ⟨'-', natDigits (m + 1), rfl, .inr rfl⟩

theorem opens_numeral {c : Char} (h : isDigit c = true ∨ c = '-') : Opens c := by
  rcases h with h | rfl
  · exact opens_digit h
  · exact ⟨by decide, by decide, by decide⟩

theorem printFloat_opens {x : Double} (h : x.IsBinary64) :
    ∃ c r, printFloat x = c :: r ∧ Opens c := by
  cases x with
  | nan => exact ⟨'N', _, rfl, ⟨by decide, by decide, by decide⟩⟩
  | infinite s => cases s <;> exact ⟨_, _, rfl, ⟨by decide, by decide, by decide⟩⟩
  | negativeZero => exact ⟨'-', _, rfl, opens_numeral (.inr rfl)⟩
  | finite q =>
    obtain ⟨c, r, hc, hd⟩ := text_finite_head h
    exact ⟨c, r, hc, opens_numeral hd⟩

theorem print_head {v : Json} (h : Fits digits depth v) : ∃ c r, v.print = c :: r ∧ Opens c := by
  cases h with
  | null => exact ⟨'n', _, rfl, ⟨by decide, by decide, by decide⟩⟩
  | bool b => cases b <;> exact ⟨_, _, rfl, ⟨by decide, by decide, by decide⟩⟩
  | @int _ n =>
    obtain ⟨c, r, hc, hd⟩ := intDigits_head n
    exact ⟨c, r, by rw [print, hc], opens_numeral hd⟩
  | float hx => exact printFloat_opens hx
  | str s => exact ⟨'"', _, by rw [print, printString], ⟨by decide, by decide, by decide⟩⟩
  | arr => exact ⟨'[', _, by rw [print], ⟨by decide, by decide, by decide⟩⟩
  | obj => exact ⟨'\x7b', _, by rw [print], ⟨by decide, by decide, by decide⟩⟩

theorem skipBlank_cons {c : Char} {r : List Char} (h : isJsonBlank c = false) :
    skipBlank (c :: r) = c :: r := by
  simp [skipBlank, h]

theorem skipBlank_space (r : List Char) : skipBlank (' ' :: r) = skipBlank r := by
  simp [skipBlank, isJsonBlank]

theorem skipBlank_print {v : Json} (h : Fits digits depth v) (rest : List Char) :
    skipBlank (v.print ++ rest) = v.print ++ rest := by
  obtain ⟨c, r, hc, ho⟩ := print_head h
  rw [hc, List.cons_append, skipBlank_cons ho.notBlank]

theorem ends_cons {c : Char} (h : c = ',' ∨ c = ']' ∨ c = '}') (r : List Char) : Ends (c :: r) := by
  rintro _ ⟨⟩
  exact h

end Heads

section Parts

variable {value : List Char → Read Json} {digits depth fuel : Nat} {halves : Bool}
variable {rest : List Char}

/-- A reader gives a value back from its text, whatever ends it there. -/
def ReadsBack (value : List Char → Read Json) (v : Json) : Prop :=
  ∀ rest, Ends rest → value (v.print ++ rest) = .ok (v, rest)

theorem readItems_space (acc : List Json) (s : List Char) :
    readItems value fuel acc (' ' :: s) = readItems value fuel acc s := by
  cases fuel with
  | zero => rfl
  | succ fuel => simp only [readItems, skipBlank_space]

theorem readEntries_space (acc : List (String × Json)) (s : List Char) :
    readEntries halves value fuel acc (' ' :: s) = readEntries halves value fuel acc s := by
  cases fuel with
  | zero => rfl
  | succ fuel => simp only [readEntries, skipBlank_space]

theorem readItems_print (fuel : Nat) (acc : List Json) (x : Json) (xs : List Json)
    (rest : List Char) (hf : ∀ y ∈ x :: xs, Fits digits depth y) (hv : ∀ y ∈ x :: xs, ReadsBack value y)
    (hfuel : xs.length < fuel) :
    readItems value fuel acc (printItems (x :: xs) ++ ']' :: rest) =
      .ok (.arr (acc.reverse ++ x :: xs), rest) := by
  induction xs generalizing x acc fuel with
  | nil =>
    obtain ⟨fuel, rfl⟩ : ∃ n, fuel = n + 1 := ⟨fuel - 1, by simp at hfuel; omega⟩
    have hx := hv x List.mem_cons_self (']' :: rest) (ends_cons (by simp) _)
    have hb : skipBlank (']' :: rest) = ']' :: rest := skipBlank_cons (by decide)
    simp only [printItems, readItems, skipBlank_print (hf x List.mem_cons_self), hx, hb,
      List.reverse_cons]
  | cons y ys ih =>
    obtain ⟨fuel, rfl⟩ : ∃ n, fuel = n + 1 := ⟨fuel - 1, by simp at hfuel; omega⟩
    have hx := hv x List.mem_cons_self (',' :: ' ' :: (printItems (y :: ys) ++ ']' :: rest))
      (ends_cons (by simp) _)
    have hb (r : List Char) : skipBlank (',' :: r) = ',' :: r := skipBlank_cons (by decide)
    have hrest := ih fuel (x :: acc) y
      (fun z hz => hf z (List.mem_cons_of_mem _ hz)) (fun z hz => hv z (List.mem_cons_of_mem _ hz))
      (by simpa using hfuel)
    simp only [printItems, List.append_assoc, List.cons_append, readItems,
      skipBlank_print (hf x List.mem_cons_self), hx, hb, readItems_space, hrest]
    simp

theorem readEntry_print (halves : Bool) (k : String) {v : Json} (hf : Fits digits depth v)
    (hv : ReadsBack value v) (hr : Ends rest) :
    readEntry halves value (printString k ++ ':' :: ' ' :: (v.print ++ rest)) =
      .ok ((k, v), rest) := by
  have hkey := readString_print halves [] k.toList (':' :: ' ' :: (v.print ++ rest))
  have hb (r : List Char) : skipBlank (':' :: r) = ':' :: r := skipBlank_cons (by decide)
  simp only [printString, List.cons_append, List.append_assoc, List.nil_append, readEntry, hkey,
    hb, skipBlank_space, skipBlank_print hf, hv rest hr]
  simp

theorem readEntries_print (halves : Bool) (fuel : Nat) (acc : List (String × Json))
    (e : String × Json) (es : List (String × Json)) (rest : List Char)
    (hk : ((acc.reverse ++ e :: es).map (·.1)).Nodup)
    (hf : ∀ x ∈ e :: es, Fits digits depth x.2) (hv : ∀ x ∈ e :: es, ReadsBack value x.2)
    (hfuel : es.length < fuel) :
    readEntries halves value fuel acc (printEntries (e :: es) ++ '}' :: rest) =
      .ok (.obj (acc.reverse ++ e :: es), rest) := by
  have hquote (k : String) (r : List Char) :
      skipBlank (printString k ++ r) = printString k ++ r := by
    rw [printString, List.cons_append, skipBlank_cons (by decide)]
  induction es generalizing e acc fuel with
  | nil =>
    obtain ⟨k, v⟩ := e
    obtain ⟨fuel, rfl⟩ : ∃ n, fuel = n + 1 := ⟨fuel - 1, by simp at hfuel; omega⟩
    have he := readEntry_print halves k (hf _ List.mem_cons_self)
      (hv _ List.mem_cons_self) (ends_cons (c := '}') (by simp) rest)
    have hb : skipBlank ('}' :: rest) = '}' :: rest := skipBlank_cons (by decide)
    have hpairs := Entries.ofPairs_of_nodup hk
    simp only [printEntries, List.append_assoc, List.cons_append, readEntries, hquote, he, hb,
      List.reverse_cons, hpairs]
  | cons e' es ih =>
    obtain ⟨k, v⟩ := e
    obtain ⟨fuel, rfl⟩ : ∃ n, fuel = n + 1 := ⟨fuel - 1, by simp at hfuel; omega⟩
    have he := readEntry_print halves k (hf _ List.mem_cons_self)
      (hv _ List.mem_cons_self)
      (ends_cons (c := ',') (by simp) (' ' :: (printEntries (e' :: es) ++ '}' :: rest)))
    have hb (r : List Char) : skipBlank (',' :: r) = ',' :: r := skipBlank_cons (by decide)
    have hrest := ih fuel ((k, v) :: acc) e' (by simpa using hk)
      (fun x hx => hf x (List.mem_cons_of_mem _ hx)) (fun x hx => hv x (List.mem_cons_of_mem _ hx))
      (by simpa using hfuel)
    simp only [printEntries, List.append_assoc, List.cons_append, readEntries, hquote, he, hb,
      readEntries_space, hrest]
    simp

end Parts

section Lengths

variable {digits depth : Nat}

theorem print_length_pos {v : Json} (h : Fits digits depth v) : 0 < v.print.length := by
  obtain ⟨c, r, hc, -⟩ := print_head h
  rw [hc]
  exact Nat.succ_pos _

theorem printItems_length {xs : List Json} (h : ∀ x ∈ xs, Fits digits depth x) :
    xs.length ≤ (printItems xs).length ∧ ∀ x ∈ xs, x.print.length ≤ (printItems xs).length := by
  induction xs with
  | nil => simp
  | cons x xs ih =>
    have hx := print_length_pos (h x List.mem_cons_self)
    obtain ⟨hl, hp⟩ := ih fun y hy => h y (List.mem_cons_of_mem _ hy)
    cases xs with
    | nil => simpa [printItems, Nat.succ_le_iff] using hx
    | cons y ys =>
      simp only [printItems, List.length_append, List.length_cons, List.forall_mem_cons] at hl hp ⊢
      refine ⟨by omega, by omega, by have := hp.1; omega, fun z hz => ?_⟩
      have := hp.2 z hz
      omega

theorem printEntries_length {es : List (String × Json)} (h : ∀ e ∈ es, Fits digits depth e.2) :
    es.length ≤ (printEntries es).length ∧
      ∀ e ∈ es, e.2.print.length ≤ (printEntries es).length := by
  induction es with
  | nil => simp
  | cons e es ih =>
    obtain ⟨k, v⟩ := e
    have hv := print_length_pos (h _ List.mem_cons_self)
    obtain ⟨hl, hp⟩ := ih fun x hx => h x (List.mem_cons_of_mem _ hx)
    cases es with
    | nil =>
      simp only [printEntries, List.length_append, List.length_cons, List.length_nil,
        List.forall_mem_cons]
      exact ⟨by omega, by omega, by simp⟩
    | cons e' es =>
      simp only [printEntries, List.length_append, List.length_cons, List.forall_mem_cons]
        at hl hp ⊢
      refine ⟨by omega, by omega, by have := hp.1; omega, fun z hz => ?_⟩
      have := hp.2 z hz
      omega

end Lengths

section Values

variable {limits : Limits} {fuel depth : Nat}

/-- What begins neither a string, an array, an object nor a word is read as a number. -/
theorem readValue_number {c : Char} {r : List Char} (h : isDigit c = true ∨ c = '-') :
    readValue limits fuel depth (c :: r) = readNumber limits.digits (c :: r) := by
  have hne (m : Char) (hm : isDigit m = false) (hm' : m ≠ '-') : c ≠ m := by
    rintro rfl
    rcases h with h | h
    · rw [h] at hm
      cases hm
    · exact hm' h
  rw [readValue.eq_def]
  simp only [if_neg (hne '"' rfl (by decide)), if_neg (hne '[' rfl (by decide)),
    if_neg (hne '\x7b' rfl (by decide)), if_neg (hne 'n' rfl (by decide)),
    if_neg (hne 't' rfl (by decide)), if_neg (hne 'f' rfl (by decide)),
    if_neg (hne 'N' rfl (by decide)), if_neg (hne 'I' rfl (by decide))]

theorem readWord_append (word : String) (v : Json) (rest : List Char) :
    readWord word v (word.toList ++ rest) = .ok (v, rest) := by
  have hp : word.toList.isPrefixOf (word.toList ++ rest) = true :=
    List.isPrefixOf_iff_prefix.mpr (List.prefix_append _ _)
  have hl : word.length = word.toList.length := (String.length_toList).symm
  rw [readWord, if_pos hp, hl, List.drop_left]

theorem readValue_printFloat {x : Double} (h : x.IsBinary64) {rest : List Char} (hr : Ends rest) :
    readValue limits fuel depth (printFloat x ++ rest) = .ok (.float x, rest) := by
  cases x with
  | nan =>
    rw [readValue.eq_def]
    exact readWord_append "NaN" (.float .nan) rest
  | infinite s =>
    cases s with
    | false =>
      rw [readValue.eq_def]
      exact readWord_append "Infinity" (.float (.infinite false)) rest
    | true =>
      refine (readValue_number (.inr rfl)).trans ?_
      exact readWord_append "-Infinity" (.float (.infinite true)) rest
  | negativeZero =>
    refine (readValue_number (.inr rfl)).trans ?_
    exact (readNumber_minus rfl _).trans (readMagnitude_zero true hr)
  | finite q =>
    have hread := readNumber_finite limits.digits h hr
    obtain ⟨c, r, hc, hd⟩ := text_finite_head h
    show readValue limits fuel depth ((Double.finite q).text.toList ++ rest) = _
    rw [hc, List.cons_append] at hread ⊢
    rw [readValue_number hd, hread]

theorem readValue_print {v : Json} (h : Fits limits.digits depth v)
    (hfuel : v.print.length ≤ fuel) : ReadsBack (readValue limits fuel depth) v := by
  induction h with
  | null =>
    intro rest _
    rw [readValue.eq_def]
    exact readWord_append "null" .null rest
  | bool b =>
    intro rest _
    rw [readValue.eq_def]
    cases b with
    | false => exact readWord_append "false" (.bool false) rest
    | true => exact readWord_append "true" (.bool true) rest
  | @int depth n hd =>
    intro rest hr
    obtain ⟨c, r, hc, hh⟩ := intDigits_head n
    have hread := readNumber_intDigits hd hr
    rw [print]
    rw [hc, List.cons_append] at hread ⊢
    rw [readValue_number hh, hread]
  | float hx => exact fun rest hr => readValue_printFloat hx hr
  | str s =>
    intro rest _
    have hread := readString_print limits.halves [] s.toList rest
    rw [readValue.eq_def]
    simp only [print, printString, List.cons_append, List.append_assoc, List.nil_append, if_true,
      hread]
    simp
  | @arr depth xs hx ih =>
    intro rest _
    rw [readValue.eq_def]
    cases xs with
    | nil => simp [print, printItems, skipBlank_cons (c := ']') (by decide)]
    | cons x xs =>
      have hlen := printItems_length hx
      have hl : (print (.arr (x :: xs))).length = (printItems (x :: xs)).length + 2 := by
        simp [print]
      have hread := readItems_print fuel [] x xs rest hx
        (fun y hy => ih y hy (by have := hlen.2 y hy; omega))
        (by have := hlen.1; simp only [List.length_cons] at this; omega)
      obtain ⟨c, r, hc, ho⟩ := print_head (hx x List.mem_cons_self)
      have hhead : ∃ r', printItems (x :: xs) ++ ']' :: rest = c :: r' := by
        cases xs <;> simp [printItems, hc]
      obtain ⟨r', hr'⟩ := hhead
      have hb := skipBlank_cons (r := r') ho.notBlank
      have hne := ho.notBracket
      simp only [print, List.cons_append, List.append_assoc, List.nil_append]
      rw [hr'] at hread ⊢
      simpa [hb, hne] using hread
  | @obj depth es hk hx ih =>
    intro rest _
    rw [readValue.eq_def]
    cases es with
    | nil => simp [print, printEntries, skipBlank_cons (c := '}') (by decide)]
    | cons e es =>
      have hlen := printEntries_length hx
      have hl : (print (.obj (e :: es))).length = (printEntries (e :: es)).length + 2 := by
        simp [print]
      have hread := readEntries_print limits.halves fuel [] e es rest hk hx
        (fun y hy => ih y hy (by have := hlen.2 y hy; omega))
        (by have := hlen.1; simp only [List.length_cons] at this; omega)
      have hhead : ∃ r', printEntries (e :: es) ++ '}' :: rest = '"' :: r' := by
        obtain ⟨k, v⟩ := e
        cases es <;> simp [printEntries, printString]
      obtain ⟨r', hr'⟩ := hhead
      have hb := skipBlank_cons (c := '"') (r := r') (by decide)
      simp only [print, List.cons_append, List.append_assoc, List.nil_append]
      rw [hr'] at hread ⊢
      simpa [hb] using hread

/-- The text of a value within the limits of a reader is read as that value. -/
theorem read_print {v : Json} (h : Fits limits.digits limits.depth v) :
    read limits v.print = .ok v := by
  have hread := readValue_print h (Nat.le_refl _) [] nofun
  have hb := skipBlank_print h []
  rw [List.append_nil] at hread hb
  rw [read, hb, hread]
  rfl

end Values

end Json

theorem bodyJson?_encode_print {v : Json} (h : Json.Fits 4300 200 v) :
    bodyJson? (utf8Encode v.print) = some v := by
  have hread : Json.read bodyLimits v.print = .ok v := Json.read_print h
  rw [bodyJson?, utf8Decode?_encode]
  simp [hread, Except.toOption]

/-- A body that is the JSON text of a value is checked as that value. -/
theorem checkBody_encode_print {α : Type} [Model α] {v : Json} (h : Json.Fits 4300 200 v) :
    (checkBody (utf8Encode v.print) : Checked α) = Model.check v := by
  rw [checkBody, bodyJson?_encode_print h]

end Courier
