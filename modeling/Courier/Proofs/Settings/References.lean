import Courier.Proofs.Entries
import Courier.Proofs.Settings.Scanning

/-! Settings files without references. Reading and undoing escapes cannot make a reference, so every
value stands for itself, and the environment has no part in it. -/

namespace Courier.EnvFile

variable {s t v r : List Char}

/-- A text in which no dollar sign stands before an opening brace. -/
def Literal (s : List Char) : Prop := ¬ ['$', '{'] <:+: s

theorem Literal.of_infix (h : Literal s) (ht : t <:+: s) : Literal t :=
  fun hmem => h (hmem.trans ht)

theorem literal_nil : Literal [] := by
  intro h
  have hle := h.length_le
  simp at hle

theorem literal_cons {c : Char} :
    Literal (c :: s) ↔ ¬ (c = '$' ∧ s.head? = some '{') ∧ Literal s := by
  have hprefix : ['$', '{'] <+: c :: s ↔ c = '$' ∧ s.head? = some '{' := by
    rw [List.cons_prefix_cons, eq_comm]
    cases s <;> simp [eq_comm]
  rw [Literal, Literal, List.infix_cons_iff, hprefix, not_or]

section Breaks

theorem plainBreaks_head (h : (plainBreaks s).head? = some '{') : s.head? = some '{' := by
  fun_induction plainBreaks s with
  | case1 r => cases h
  | case2 r hr => cases h
  | case3 c r hc hc' => exact h
  | case4 => cases h

theorem literal_plainBreaks (h : Literal s) : Literal (plainBreaks s) := by
  fun_induction plainBreaks s with
  | case1 r ih =>
    have hr : Literal r := h.of_infix ((List.suffix_cons _ _).trans (List.suffix_cons _ _)).isInfix
    exact literal_cons.mpr ⟨by simp, ih hr⟩
  | case2 r hr ih => exact literal_cons.mpr ⟨by simp, ih (literal_cons.mp h).2⟩
  | case3 c r hc hc' ih =>
    obtain ⟨hhead, hrest⟩ := literal_cons.mp h
    exact literal_cons.mpr ⟨fun ⟨hc, hr⟩ => hhead ⟨hc, plainBreaks_head hr⟩, ih hrest⟩
  | case4 => exact literal_nil

end Breaks

section Escapes

variable {q : Char}

theorem simpleEscape?_ne {c d : Char} (h : simpleEscape? q c = some d) : d ≠ '$' ∧ d ≠ '{' := by
  unfold simpleEscape? at h
  split_ifs at h with hsame
  case pos =>
    cases h
    rcases hsame with rfl | rfl <;> decide
  all_goals
    cases h
    decide

theorem unescape_head (h : (unescape q s).head? = some '{') : s.head? = some '{' := by
  fun_induction unescape q s with
  | case1 c r d hd => exact ((simpleEscape?_ne hd).2 (Option.some.inj h)).elim
  | case2 c r hd => cases h
  | case3 c r hc => exact h
  | case4 => cases h

theorem literal_unescape (h : Literal s) : Literal (unescape q s) := by
  fun_induction unescape q s with
  | case1 c r d hd ih =>
    have hr : Literal r := h.of_infix ((List.suffix_cons _ _).trans (List.suffix_cons _ _)).isInfix
    exact literal_cons.mpr ⟨fun hdollar => (simpleEscape?_ne hd).1 hdollar.1, ih hr⟩
  | case2 c r hd ih => exact literal_cons.mpr ⟨by simp, ih (literal_cons.mp h).2⟩
  | case3 c r hc ih =>
    obtain ⟨hhead, hrest⟩ := literal_cons.mp h
    exact literal_cons.mpr ⟨fun ⟨hc, hr⟩ => hhead ⟨hc, unescape_head hr⟩, ih hrest⟩
  | case4 => exact literal_nil

end Escapes

theorem expand_literal (lookup : String → Option (List Char)) (fuel : Nat) (h : Literal s) :
    expand lookup fuel s = s := by
  induction fuel generalizing s with
  | zero => rfl
  | succ fuel ih =>
    cases s with
    | nil => rfl
    | cons c s =>
      obtain ⟨hhead, hrest⟩ := literal_cons.mp h
      rw [expand]
      · rw [ih hrest]
      · rintro r hc rfl
        exact hhead ⟨hc, rfl⟩

section Values

theorem cutComment_front (seen s : List Char) : cutComment seen s <+: seen.reverse ++ s := by
  induction s generalizing seen with
  | nil => rw [cutComment, List.append_nil]
  | cons c s ih =>
    rw [cutComment]
    split
    · have hdrop := List.reverse_prefix.mpr (List.dropWhile_suffix (l := seen) isSpacing)
      exact hdrop.trans (List.prefix_append _ _)
    · have hrest := ih (c :: seen)
      rwa [List.reverse_cons, List.append_assoc] at hrest

theorem stripRightBy_front (p : Char → Bool) (s : List Char) : stripRightBy p s <+: s := by
  have hdrop := List.reverse_prefix.mpr (List.dropWhile_suffix (l := s.reverse) p)
  rwa [List.reverse_reverse] at hdrop

theorem closeQuote_front {q : Char} {spare : Option (List Char × List Char)} {seen : List Char}
    (hspare : ∀ p ∈ spare, p.1 <+: t) (ht : seen.reverse ++ s = t)
    (h : closeQuote q spare seen s = some (v, r)) : v <+: t := by
  fun_induction closeQuote q spare seen s with
  | case1 spare seen => exact hspare _ h
  | case2 spare seen =>
    cases h
    exact ht ▸ List.prefix_append _ _
  | case3 spare seen c hc => exact hspare _ h
  | case4 spare seen d r' =>
    cases h
    exact ht ▸ List.prefix_append _ _
  | case5 spare seen c d r' hc hescape ih =>
    have hseen : (d :: c :: seen).reverse ++ r' = t := by simpa using ht
    refine ih (fun p hp => ?_) hseen h
    cases hp
    rw [← ht]
    simp
  | case6 spare seen c d r' hc hescape ih =>
    exact ih hspare (by simpa using ht) h

theorem readValue_literal (hs : Literal s) (h : readValue s = .ok (v, r)) : Literal v := by
  unfold readValue at h
  split at h
  · cases h
    exact literal_nil
  · next c s =>
    split at h
    · rw [readQuoted, List.drop_one, List.tail_cons] at h
      split at h
      · next raw r' hclose =>
        cases h
        have hraw := closeQuote_front (t := s) (by simp) rfl hclose
        exact literal_unescape (hs.of_infix (hraw.isInfix.trans (List.suffix_cons c s).isInfix))
      · cases h
    · cases h
      have hcut := cutComment_front [] ((c :: s).takeWhile (!isBreak ·))
      have hline := ((stripRightBy_front isSpacing _).trans hcut).trans (List.takeWhile_prefix _)
      exact hs.of_infix hline.isInfix

theorem readAssignment_literal (hs : Literal s) (h : readAssignment s = .ok (some v, r)) :
    Literal v := by
  unfold readAssignment at h
  split at h
  · next s =>
    have hsuffix := (List.dropWhile_suffix isGap).trans (List.suffix_cons '=' s)
    have hbehind := hs.of_infix hsuffix.isInfix
    cases hvalue : readValue (s.dropWhile isGap) with
    | error e =>
      rw [hvalue] at h
      cases h
    | ok found =>
      rw [hvalue] at h
      cases h
      exact readValue_literal hbehind hvalue
  · cases h

theorem readPair_literal {key : Option String} (hs : Literal s)
    (h : readPair s = .ok ((key, some v), r)) : Literal v := by
  rw [readPair] at h
  cases hkey : readKey (skipExport s) with
  | error e =>
    rw [hkey] at h
    cases h
  | ok found =>
    rw [hkey] at h
    have hrest := rest_readKey (skipExport s)
    rw [hkey] at hrest
    have hbehind : Literal (found.2.dropWhile isGap) := hs.of_infix
      (((List.dropWhile_suffix isGap).trans hrest).trans (skipExport_suffix s)).isInfix
    simp only [Except.bind, pairWith] at h
    cases hvalue : readAssignment (found.2.dropWhile isGap) with
    | error e =>
      rw [hvalue] at h
      cases h
    | ok found' =>
      obtain ⟨value, behind⟩ := found'
      rw [hvalue] at h
      cases h
      exact readAssignment_literal hbehind hvalue

theorem endLine_some {y : Scan (Option String × Option (List Char))} {b : Binding}
    (h : endLine y = (some b, r)) : ∃ key r', y = .ok ((key, b.value), r') := by
  cases y with
  | error e => cases h
  | ok found =>
    obtain ⟨⟨key, value⟩, r'⟩ := found
    rw [endLine] at h
    cases hend : skipLineEnd r' with
    | error e =>
      rw [hend] at h
      cases h
    | ok left =>
      rw [hend] at h
      cases key with
      | none => cases h
      | some k =>
        cases h
        exact ⟨some k, r', rfl⟩

theorem nextLine_literal {b : Binding} (hs : Literal s) (h : nextLine s = some (some b, r))
    (hv : b.value = some v) : Literal v := by
  have hline := hs.of_infix (List.dropWhile_suffix (l := s) isSpacing).isInfix
  rw [nextLine_eq] at h
  generalize s.dropWhile isSpacing = line at h hline
  cases line with
  | nil => cases h
  | cons c line =>
    obtain ⟨key, r', hpair⟩ := endLine_some (Option.some.inj h)
    rw [hv] at hpair
    exact readPair_literal hline hpair

theorem allBindings_literal (hs : Literal s) :
    ∀ b ∈ allBindings s, ∀ v, b.value = some v → Literal v := by
  induction hlength : s.length using Nat.strongRecOn generalizing s with
  | ind n ih =>
    rw [allBindings_eq]
    cases hline : nextLine s with
    | none => simp
    | some found =>
      obtain ⟨b, r⟩ := found
      obtain ⟨hfollows, hshorter⟩ := nextLine_leaves hline
      have hrest := ih r.length (hlength ▸ hshorter) (hs.of_infix hfollows.suffix.isInfix) rfl
      intro b' hb'
      rcases List.mem_append.mp hb' with hb' | hb'
      · rw [Option.mem_toList] at hb'
        subst hb'
        exact fun v hv => nextLine_literal hs hline hv
      · exact hrest b' hb'

theorem literal_content {file : String} (h : Literal file.toList) : Literal (content file) := by
  have hplain := literal_plainBreaks h
  rw [content]
  split
  · exact hplain.of_infix (List.drop_suffix 1 _).isInfix
  · exact hplain

/-- Without references the values of a file are those of its bindings: the last one of each key, in
the place of the first. -/
theorem values_literal {file : String} (h : Literal file.toList)
    (environment : Entries String String) :
    values environment file = (Entries.ofPairs ((bindings file).map fun b => (b.key, b.value))).map
      fun e => (e.1, e.2.map String.ofList) := by
  have hvalues : ∀ b ∈ bindings file, ∀ v, b.value = some v → Literal v := by
    rw [bindings_eq]
    exact allBindings_literal (literal_content h)
  rw [values, Entries.ofPairs, Entries.ofPairsBy, List.foldl_map]
  congr 1
  generalize ([] : Entries String (Option (List Char))) = es
  generalize bindings file = bs at hvalues
  induction bs generalizing es with
  | nil => rfl
  | cons b bs ih =>
    have hvalue : (b.value.map fun v => expand (lookup environment es) v.length v) = b.value := by
      cases hv : b.value with
      | none => rfl
      | some v => exact congrArg some (expand_literal _ _ (hvalues b List.mem_cons_self v hv))
    rw [List.foldl_cons, List.foldl_cons, hvalue]
    exact ih _ fun b' hb' => hvalues b' (List.mem_cons_of_mem b hb')

end Values

end Courier.EnvFile
