import Courier.Settings.EnvFile
import Mathlib.Data.List.Infix

/-! Scanning a settings file. A scan leaves an end of its text, and every line takes a character at
least, so the lines are read to the end of the file. -/

namespace Courier.EnvFile

variable {α β : Type} {s t : List Char}

/-- What a scan leaves behind it, or where it failed. -/
def rest : Scan α → List Char
  | .ok (_, r) => r
  | .error r => r

@[simp]
theorem rest_ok (a : α) (r : List Char) : rest (.ok (a, r)) = r := rfl

@[simp]
theorem rest_error (r : List Char) : rest (.error r : Scan α) = r := rfl

theorem rest_bind_suffix {x : Scan α} {f : α × List Char → Scan β}
    (hf : ∀ a r, x = .ok (a, r) → rest (f (a, r)) <:+ r) : rest (x.bind f) <:+ rest x := by
  cases x with
  | ok p => exact hf p.1 p.2 rfl
  | error r => exact List.suffix_refl r

/-- A text is the end of another behind a line break, or nothing. -/
def Follows (r s : List Char) : Prop := r = [] ∨ ∃ u c, s = u ++ c :: r ∧ isBreak c = true

theorem Follows.suffix {r : List Char} (h : Follows r s) : r <:+ s := by
  rcases h with rfl | ⟨u, c, rfl, -⟩
  · exact List.nil_suffix
  · exact (List.suffix_cons c r).trans (List.suffix_append u _)

theorem Follows.of_suffix {r : List Char} (h : Follows r s) (hs : s <:+ t) : Follows r t := by
  rcases h with rfl | ⟨u, c, rfl, hc⟩
  · exact .inl rfl
  · obtain ⟨v, rfl⟩ := hs
    exact .inr ⟨v ++ u, c, (List.append_assoc v u _).symm, hc⟩

section Suffixes

/-- Closing a quotation leaves an end of the text, if the closing in reserve does. -/
theorem closeQuote_suffix {q : Char} {spare : Option (List Char × List Char)} {seen v r : List Char}
    (hspare : ∀ p ∈ spare, p.2 <:+ t) (hs : s <:+ t) (h : closeQuote q spare seen s = some (v, r)) :
    r <:+ t := by
  fun_induction closeQuote q spare seen s with
  | case1 spare seen => exact hspare _ h
  | case2 spare seen =>
    cases h
    exact List.nil_suffix
  | case3 spare seen c hc => exact hspare _ h
  | case4 spare seen d r' =>
    cases h
    exact (List.suffix_cons q (d :: r')).trans hs
  | case5 spare seen c d r' hc hescape ih =>
    have hr : r' <:+ t := ((List.suffix_cons d r').trans (List.suffix_cons c (d :: r'))).trans hs
    refine ih (fun p hp => ?_) hr h
    cases hp
    exact hr
  | case6 spare seen c d r' hc hescape ih =>
    exact ih hspare ((List.suffix_cons c (d :: r')).trans hs) h

theorem rest_readQuoted (q : Char) (s : List Char) : rest (readQuoted q s) <:+ s := by
  rw [readQuoted]
  split
  · next v r h =>
    have hquoted := closeQuote_suffix (by simp) (List.suffix_refl _) h
    exact hquoted.trans (List.drop_suffix 1 s)
  · exact List.suffix_refl s

theorem rest_readValue (s : List Char) : rest (readValue s) <:+ s := by
  unfold readValue
  split
  · exact List.suffix_refl _
  · split
    · exact rest_readQuoted _ _
    · exact List.dropWhile_suffix _

theorem skipExport_suffix (s : List Char) : skipExport s <:+ s := by
  unfold skipExport
  dsimp only
  split
  · exact (List.dropWhile_suffix _).trans (List.drop_suffix _ s)
  · exact List.suffix_refl s

theorem rest_readKey (s : List Char) : rest (readKey s) <:+ s := by
  unfold readKey
  split
  · exact List.suffix_refl _
  · next r =>
    split
    · next k ks c r' hkey hdrop =>
      have hr : c :: r' <:+ r := hdrop ▸ List.dropWhile_suffix _
      exact ((List.suffix_cons c r').trans hr).trans (List.suffix_cons '\'' r)
    · exact List.suffix_refl _
  · split
    · exact List.suffix_refl _
    · exact List.dropWhile_suffix _

theorem rest_readAssignment (s : List Char) : rest (readAssignment s) <:+ s := by
  unfold readAssignment
  split
  · next r =>
    have hvalue := (rest_readValue (r.dropWhile isGap)).trans (List.dropWhile_suffix _)
    refine List.IsSuffix.trans ?_ (hvalue.trans (List.suffix_cons '=' r))
    cases readValue (r.dropWhile isGap) <;> exact List.suffix_refl _
  · exact List.suffix_refl _

theorem skipLine_follows (s : List Char) : Follows (skipLine s) s := by
  rw [skipLine]
  cases hline : s.dropWhile (!isBreak ·) with
  | nil => exact .inl rfl
  | cons c r =>
    have hc : isBreak c = true := by
      have hhead := List.head_dropWhile_not (!isBreak ·) (l := s) (by simp [hline])
      simpa [hline] using hhead
    obtain ⟨u, hu⟩ : c :: r <:+ s := hline ▸ List.dropWhile_suffix _
    exact .inr ⟨u, c, hu.symm, hc⟩

/-- The text behind a comment, if one comes next. -/
def skipComment (s : List Char) : List Char :=
  let r := s.dropWhile isGap
  if r.head? = some '#' then r.dropWhile (!isBreak ·) else s

theorem skipLineEnd_eq (s : List Char) :
    skipLineEnd s = match (skipComment s).dropWhile isGap with
      | [] => .ok []
      | c :: r => if isBreak c then .ok r else .error (skipComment s) := rfl

theorem skipComment_suffix (s : List Char) : skipComment s <:+ s := by
  rw [skipComment]
  split
  · exact (List.dropWhile_suffix _).trans (List.dropWhile_suffix _)
  · exact List.suffix_refl s

theorem skipComment_shorter (s : List Char) :
    (skipComment ('#' :: s)).length < ('#' :: s).length := by
  have hstart : skipComment ('#' :: s) = s.dropWhile (!isBreak ·) := rfl
  rw [hstart]
  exact Nat.lt_succ_of_le (List.dropWhile_suffix _).length_le

theorem skipLineEnd_ok {r : List Char} (h : skipLineEnd s = .ok r) :
    Follows r (skipComment s) := by
  have hgap := List.dropWhile_suffix (l := skipComment s) isGap
  rw [skipLineEnd_eq] at h
  split at h
  · cases h
    exact .inl rfl
  · next c t hend =>
    rw [hend] at hgap
    split_ifs at h with hbreak
    cases h
    obtain ⟨u, hu⟩ := hgap
    exact .inr ⟨u, c, hu.symm, hbreak⟩

theorem skipLineEnd_error {r : List Char} (h : skipLineEnd s = .error r) : r = skipComment s := by
  rw [skipLineEnd_eq] at h
  split at h
  · cases h
  · split_ifs at h
    cases h
    rfl

end Suffixes

section Keys

theorem readKey_none {r : List Char} (h : readKey s = .ok (none, r)) :
    r = s ∧ s.head? = some '#' := by
  unfold readKey at h
  split at h
  · cases h
    exact ⟨rfl, rfl⟩
  · split at h <;> cases h
  · split at h <;> cases h

theorem readKey_some {k : String} {r : List Char} (h : readKey s = .ok (some k, r)) :
    r.length < s.length := by
  unfold readKey at h
  split at h
  · cases h
  · next t =>
    split at h
    · next k' ks c r' hkey hdrop =>
      cases h
      have hr : (c :: r).length ≤ t.length := by
        rw [← hdrop]
        exact (List.dropWhile_suffix _).length_le
      simp only [List.length_cons] at hr ⊢
      omega
    · cases h
  · split at h
    · cases h
    · next hkey =>
      cases h
      have hsplit := congrArg List.length
        (List.takeWhile_append_dropWhile (p := isKeyChar) (l := s))
      have hpos := List.length_pos_iff.mpr hkey
      rw [List.length_append] at hsplit
      omega

end Keys

section Lines

/-- A key with the value behind it. -/
def pairWith (key : Option String) (s : List Char) : Scan (Option String × Option (List Char)) :=
  (readAssignment (s.dropWhile isGap)).map fun (value, r) => ((key, value), r)

/-- The key at the front of a line with its value, without the end of the line. -/
def readPair (s : List Char) : Scan (Option String × Option (List Char)) :=
  (readKey (skipExport s)).bind fun (key, r) => pairWith key r

theorem readLine_eq (s : List Char) :
    readLine s = (readPair s).bind fun (p, r) =>
      (skipLineEnd r).map fun r => (p.1.map (Binding.mk · p.2), r) := by
  unfold readLine readPair pairWith
  cases readKey (skipExport s) with
  | error r => rfl
  | ok p =>
    obtain ⟨key, r⟩ := p
    simp only [Except.bind]
    cases readAssignment (r.dropWhile isGap) <;> rfl

theorem rest_pairWith (key : Option String) (s : List Char) : rest (pairWith key s) <:+ s := by
  have hvalue := (rest_readAssignment (s.dropWhile isGap)).trans (List.dropWhile_suffix _)
  refine List.IsSuffix.trans ?_ hvalue
  rw [pairWith]
  cases readAssignment (s.dropWhile isGap) <;> exact List.suffix_refl _

theorem rest_readPair (s : List Char) : rest (readPair s) <:+ s := by
  have hkey := (rest_readKey (skipExport s)).trans (skipExport_suffix s)
  exact (rest_bind_suffix fun key r _ => rest_pairWith key r).trans hkey

/-- The next line of a text: what it binds, and the text behind it. A line that cannot be read binds
nothing. -/
def nextLine (s : List Char) : Option (Option Binding × List Char) :=
  match s.dropWhile isSpacing with
  | [] => none
  | s =>
    match readLine s with
    | .ok (b, r) => some (b, r)
    | .error r => some (none, skipLine r)

theorem readLines_succ (fuel : Nat) (s : List Char) :
    readLines (fuel + 1) s = match nextLine s with
      | none => []
      | some (b, r) => b.toList ++ readLines fuel r := by
  rw [readLines, nextLine]
  cases s.dropWhile isSpacing with
  | nil => rfl
  | cons c s =>
    dsimp only
    cases readLine (c :: s) with
    | error r => rfl
    | ok p =>
      obtain ⟨b, r⟩ := p
      cases b <;> rfl

theorem readPair_shorter {p : Option String × Option (List Char)} {r r' : List Char}
    (hr : readPair s = .ok (p, r)) (hr' : skipLineEnd r = .ok r') : r'.length < s.length := by
  have hexport := (skipExport_suffix s).length_le
  have hend := ((skipLineEnd_ok hr').suffix.trans (skipComment_suffix r)).length_le
  rw [readPair] at hr
  cases hkey : readKey (skipExport s) with
  | error e =>
    rw [hkey] at hr
    cases hr
  | ok found =>
    obtain ⟨key, behind⟩ := found
    rw [hkey] at hr
    have hpair : pairWith key behind = .ok (p, r) := hr
    cases key with
    | some k =>
      have hvalue := (rest_pairWith (some k) behind).length_le
      rw [hpair, rest_ok] at hvalue
      have hshorter := readKey_some hkey
      omega
    | none =>
      -- A comment has no key, and it is left out with the end of the line.
      obtain ⟨rfl, hhead⟩ := readKey_none hkey
      obtain ⟨t, ht⟩ : ∃ t, skipExport s = '#' :: t := List.head?_eq_some_iff.mp hhead
      rw [ht] at hpair hexport
      cases hpair
      have hcomment := skipComment_shorter t
      have hleft := (skipLineEnd_ok hr').suffix.length_le
      omega

theorem skipLine_shorter {r : List Char} (hr : r <:+ s) (hs : s ≠ []) :
    (skipLine r).length < s.length := by
  have hle := hr.length_le
  have hpos := List.length_pos_iff.mpr hs
  cases r with
  | nil => exact hpos
  | cons c r =>
    have hdrop := (List.dropWhile_suffix (l := c :: r) (!isBreak ·)).length_le
    rw [skipLine, List.length_drop]
    simp only [List.length_cons] at hle hdrop
    omega

/-- The end of a line behind its key and value. What cannot be read makes the line bind nothing. -/
def endLine : Scan (Option String × Option (List Char)) → Option Binding × List Char
  | .error r => (none, skipLine r)
  | .ok (p, r) =>
    match skipLineEnd r with
    | .ok r => (p.1.map (Binding.mk · p.2), r)
    | .error r => (none, skipLine r)

theorem nextLine_eq (s : List Char) :
    nextLine s = match s.dropWhile isSpacing with
      | [] => none
      | c :: r => some (endLine (readPair (c :: r))) := by
  rw [nextLine]
  cases s.dropWhile isSpacing with
  | nil => rfl
  | cons c r =>
    dsimp only
    rw [readLine_eq]
    cases readPair (c :: r) with
    | error e => rfl
    | ok found =>
      simp only [Except.bind, endLine]
      cases skipLineEnd found.2 <;> rfl

theorem endLine_follows (y : Scan (Option String × Option (List Char))) :
    Follows (endLine y).2 (rest y) := by
  cases y with
  | error r => exact skipLine_follows r
  | ok found =>
    obtain ⟨p, r⟩ := found
    have hcomment := skipComment_suffix r
    rw [endLine]
    cases hend : skipLineEnd r with
    | ok r' => exact (skipLineEnd_ok hend).of_suffix hcomment
    | error r' => exact (skipLine_follows r').of_suffix (skipLineEnd_error hend ▸ hcomment)

theorem endLine_shorter (hs : s ≠ []) : (endLine (readPair s)).2.length < s.length := by
  have hrest := rest_readPair s
  cases hpair : readPair s with
  | error r =>
    rw [hpair] at hrest
    exact skipLine_shorter hrest hs
  | ok found =>
    obtain ⟨p, r⟩ := found
    rw [hpair] at hrest
    rw [endLine]
    cases hend : skipLineEnd r with
    | ok r' => exact readPair_shorter hpair hend
    | error r' =>
      have hcomment := (skipComment_suffix r).trans hrest
      exact skipLine_shorter (skipLineEnd_error hend ▸ hcomment) hs

/-- The next line leaves an end of its text behind a line break, and less than all of it. -/
theorem nextLine_leaves {b : Option Binding} {r : List Char} (h : nextLine s = some (b, r)) :
    Follows r s ∧ r.length < s.length := by
  have hstart := List.dropWhile_suffix (l := s) isSpacing
  rw [nextLine_eq] at h
  generalize s.dropWhile isSpacing = line at h hstart
  cases line with
  | nil => cases h
  | cons c line =>
    have hend := (endLine_follows (readPair (c :: line))).of_suffix
      ((rest_readPair (c :: line)).trans hstart)
    have hshorter := endLine_shorter (List.cons_ne_nil c line)
    rw [Option.some.inj h] at hend hshorter
    exact ⟨hend, Nat.lt_of_lt_of_le hshorter hstart.length_le⟩

end Lines

section Fuel

theorem readLines_enough {fuel fuel' : Nat} (h : s.length < fuel) (h' : s.length < fuel') :
    readLines fuel s = readLines fuel' s := by
  induction fuel generalizing fuel' s with
  | zero => omega
  | succ fuel ih =>
    obtain ⟨fuel', rfl⟩ : ∃ n, fuel' = n + 1 := ⟨fuel' - 1, by omega⟩
    rw [readLines_succ, readLines_succ]
    cases hline : nextLine s with
    | none => rfl
    | some found =>
      obtain ⟨b, r⟩ := found
      have hshorter := (nextLine_leaves hline).2
      have hrest : readLines fuel r = readLines fuel' r := ih (by omega) (by omega)
      simp only [hrest]

/-- All bindings of a text. -/
def allBindings (s : List Char) : List Binding := readLines (s.length + 1) s

theorem allBindings_eq (s : List Char) :
    allBindings s = match nextLine s with
      | none => []
      | some (b, r) => b.toList ++ allBindings r := by
  rw [allBindings, readLines_succ]
  cases hline : nextLine s with
  | none => rfl
  | some found =>
    obtain ⟨b, r⟩ := found
    have hshorter := (nextLine_leaves hline).2
    have hrest : readLines s.length r = readLines (r.length + 1) r :=
      readLines_enough hshorter (Nat.lt_succ_self _)
    simp only [hrest, allBindings]

/-- The text of a file with plain line breaks, without a byte order mark. -/
def content (file : String) : List Char :=
  let s := plainBreaks file.toList
  if s.head? = some '\ufeff' then s.drop 1 else s

theorem bindings_eq (file : String) : bindings file = allBindings (content file) := by
  have hle : (content file).length ≤ (plainBreaks file.toList).length := by
    rw [content]
    split
    · exact (List.drop_suffix 1 _).length_le
    · exact Nat.le_refl _
  exact readLines_enough (Nat.lt_succ_of_le hle) (Nat.lt_succ_self _)

end Fuel

section Reading

/-- Reading a text line by line gives bindings and comes to a text behind them. -/
inductive Reads : List Char → List Binding → List Char → Prop
  | here (s : List Char) : Reads s [] s
  | line {s r t : List Char} {b : Option Binding} {bs : List Binding}
    (h : nextLine s = some (b, r)) (hr : Reads r bs t) : Reads s (b.toList ++ bs) t

variable {bs : List Binding}

theorem Reads.allBindings_eq (h : Reads s bs t) : allBindings s = bs ++ allBindings t := by
  induction h with
  | here s => rfl
  | line h hr ih =>
    rw [EnvFile.allBindings_eq, h, List.append_assoc, ← ih]

theorem Reads.suffix (h : Reads s bs t) : t <:+ s := by
  induction h with
  | here s => exact List.suffix_refl s
  | line h hr ih => exact ih.trans (nextLine_leaves h).1.suffix

end Reading

end Courier.EnvFile
