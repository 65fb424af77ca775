import Courier.Proofs.Settings.Scanning
import Mathlib.Data.List.TakeWhile

/-! How far a line of a settings file looks ahead. A line that ends in front of some text is read
the same whatever that text is, unless it leaves a quotation open that a mark in the text closes. -/

namespace Courier.EnvFile

variable {α β : Type} {q r t : List Char}

/-- A character that opens and closes quotations. -/
def IsMark (c : Char) : Prop := c = '"' ∨ c = '\''

theorem IsMark.not_break {c : Char} (h : IsMark c) : isBreak c = false := by
  rcases h with rfl | rfl <;> rfl

/-- A text that ends with a line break. -/
def Ended (q : List Char) : Prop := ∃ u c, q = u ++ [c] ∧ isBreak c = true

namespace Ended

theorem ne_nil (h : Ended q) : q ≠ [] := by
  obtain ⟨u, c, rfl, -⟩ := h
  simp

theorem append (h : Ended q) (u : List Char) : Ended (u ++ q) := by
  obtain ⟨v, c, rfl, hc⟩ := h
  exact ⟨u ++ v, c, (List.append_assoc u v [c]).symm, hc⟩

theorem of_suffix (h : Ended q) (hr : r <:+ q) (hne : r ≠ []) : Ended r := by
  obtain ⟨u, c, rfl, hc⟩ := h
  rcases List.eq_nil_or_concat r with hnil | ⟨v, d, rfl⟩
  · exact (hne hnil).elim
  · rw [List.concat_eq_append] at hr ⊢
    obtain ⟨w, hw⟩ := hr
    have hlast := congrArg List.getLast? hw
    simp only [← List.append_assoc, List.getLast?_concat, Option.some.injEq] at hlast
    exact ⟨v, d, rfl, hlast ▸ hc⟩

theorem of_cons {c : Char} (h : Ended (c :: q)) (hc : isBreak c = false) : Ended q := by
  refine h.of_suffix (List.suffix_cons c q) ?_
  rintro rfl
  obtain ⟨u, d, hq, hd⟩ := h
  rw [← List.nil_append [c]] at hq
  obtain ⟨-, hcd⟩ := List.append_inj' hq rfl
  rw [List.singleton_inj.mp hcd, hd] at hc
  cases hc

theorem stops {p : Char → Bool} (hp : ∀ c, isBreak c = true → p c = false) (h : Ended q) :
    ∃ c ∈ q, p c = false := by
  obtain ⟨u, c, rfl, hc⟩ := h
  exact ⟨c, by simp, hp c hc⟩

end Ended

section Stopping

variable {p : Char → Bool} (h : ∃ c ∈ q, p c = false)

include h

theorem dropWhile_ne_nil_of_stop : q.dropWhile p ≠ [] := by
  obtain ⟨c, hc, hpc⟩ := h
  rw [ne_eq, List.dropWhile_eq_nil_iff]
  exact fun hall => Bool.false_ne_true (hpc.symm.trans (hall c hc))

theorem dropWhile_append_of_stop (x : List Char) : (q ++ x).dropWhile p = q.dropWhile p ++ x := by
  have hne := dropWhile_ne_nil_of_stop h
  rw [List.dropWhile_append, if_neg (by simpa using hne)]

theorem takeWhile_append_of_stop (x : List Char) : (q ++ x).takeWhile p = q.takeWhile p := by
  obtain ⟨c, hc, hpc⟩ := h
  have hne : (q.takeWhile p).length ≠ q.length := by
    intro hlength
    have hall := List.takeWhile_eq_self_iff.mp ((List.takeWhile_prefix p).eq_of_length hlength)
    exact Bool.false_ne_true (hpc.symm.trans (hall c hc))
  rw [List.takeWhile_append, if_neg hne]

end Stopping

namespace Ended

variable {p : Char → Bool} (hp : ∀ c, isBreak c = true → p c = false) (h : Ended q)

include hp h

theorem dropWhile :
    Ended (q.dropWhile p) ∧ ∀ x, (q ++ x).dropWhile p = q.dropWhile p ++ x :=
  ⟨h.of_suffix (List.dropWhile_suffix p) (dropWhile_ne_nil_of_stop (h.stops hp)),
    dropWhile_append_of_stop (h.stops hp)⟩

theorem takeWhile (x : List Char) : (q ++ x).takeWhile p = q.takeWhile p :=
  takeWhile_append_of_stop (h.stops hp) x

end Ended

section Classes

variable {c : Char} (hc : isBreak c = true)

include hc

theorem isSpacing_break : isSpacing c = true := by
  rcases Bool.or_eq_true_iff.mp hc with h | h <;> rw [eq_of_beq h] <;> rfl

theorem isGap_break : isGap c = false := by
  rw [isGap, hc]
  exact Bool.and_false _

theorem isKeyChar_break : isKeyChar c = false := by
  rw [isKeyChar, isSpacing_break hc, Bool.or_true]
  rfl

theorem not_isBreak_break : (!isBreak c) = false := by
  rw [hc]
  rfl

end Classes

theorem Ended.dropGaps (h : Ended q) :
    Ended (q.dropWhile isGap) ∧ ∀ x, (q ++ x).dropWhile isGap = q.dropWhile isGap ++ x :=
  h.dropWhile fun _ => isGap_break

section Quotations

variable {quote : Char} {spare : Option (List Char × List Char)} {seen s : List Char}

theorem closeQuote_of_notMem (h : quote ∉ s) : closeQuote quote spare seen s = spare := by
  fun_induction closeQuote quote spare seen s with
  | case1 => rfl
  | case2 => simp at h
  | case3 => rfl
  | case4 => simp at h
  | case5 spare seen c d r hc hescape => simp [hescape.2] at h
  | case6 spare seen c d r hc hescape ih => exact ih fun hmem => h (List.mem_cons_of_mem c hmem)

theorem closeQuote_of_mem (spare : Option (List Char × List Char)) (seen : List Char)
    (h : quote ∈ s) :
    ∃ v r, closeQuote quote spare seen s = some (v, r) ∧ r.length < s.length := by
  fun_induction closeQuote quote spare seen s with
  | case1 => cases h
  | case2 => exact ⟨_, [], rfl, Nat.one_pos⟩
  | case3 spare seen c hc => exact (hc (List.mem_singleton.mp h).symm).elim
  | case4 spare seen d r => exact ⟨_, _, rfl, Nat.lt_succ_self _⟩
  | case5 spare seen c d r hc hescape ih =>
    by_cases hmem : quote ∈ r
    · obtain ⟨v, r', hr', hlt⟩ := ih hmem
      exact ⟨v, r', hr', Nat.lt_trans hlt (Nat.lt_add_of_pos_right (Nat.succ_pos 1))⟩
    · exact ⟨_, r, closeQuote_of_notMem hmem, Nat.lt_add_of_pos_right (Nat.succ_pos 1)⟩
  | case6 spare seen c d r hc hescape ih =>
    have hmem : quote ∈ d :: r := (List.mem_cons.mp h).resolve_left fun he => hc he.symm
    obtain ⟨v, r', hr', hlt⟩ := ih hmem
    exact ⟨v, r', hr', Nat.lt_succ_of_lt hlt⟩

/-- Where a quotation closes that runs into a text which ends with a line break: within it, or
behind it unless nothing there closes it; then the last closing in reserve counts. -/
inductive Closing (quote : Char) (seen q : List Char) : Prop
  | within (v r : List Char) (hr : Ended r)
    (h : ∀ spare x, closeQuote quote spare seen (q ++ x) = some (v, r ++ x))
  | beyond (found : Option (List Char × List Char)) (seen' : List Char)
    (hfound : ∀ p ∈ found, Ended p.2)
    (h : ∀ spare x, closeQuote quote spare seen (q ++ x) =
      closeQuote quote ((found.map fun p => (p.1, p.2 ++ x)).or spare) seen' x)

theorem closing_break {c : Char} (hc : isBreak c = true) (hquote : isBreak quote = false)
    (seen : List Char) : Closing quote seen [c] := by
  have hne : c ≠ quote := by
    rintro rfl
    rw [hc] at hquote
    cases hquote
  have hback : c ≠ '\\' := by
    rintro rfl
    cases hc
  refine .beyond none (c :: seen) nofun fun spare x => ?_
  cases x with
  | nil => simp [closeQuote, hne]
  | cons d x => simp [closeQuote, hne, hback]

theorem closing_escape {r : List Char} (hback : '\\' ≠ quote) (hr : Ended r)
    (h : Closing quote (quote :: '\\' :: seen) r) : Closing quote seen ('\\' :: quote :: r) := by
  have hstep (spare : Option (List Char × List Char)) (x : List Char) :
      closeQuote quote spare seen ('\\' :: quote :: r ++ x) = closeQuote quote
        (some (('\\' :: seen).reverse, r ++ x)) (quote :: '\\' :: seen) (r ++ x) := by
    rw [List.cons_append, List.cons_append, closeQuote, if_neg hback, if_pos ⟨rfl, rfl⟩]
  cases h with
  | within v r' hr' hclosed => exact .within v r' hr' fun spare x => by rw [hstep, hclosed]
  | beyond found seen' hfound hopen =>
    refine .beyond (found.or (some (('\\' :: seen).reverse, r))) seen' (fun p hp => ?_)
      fun spare x => ?_
    · rcases Option.or_eq_some_iff.mp hp with hp | ⟨-, hp⟩
      · exact hfound p hp
      · cases hp
        exact hr
    · rw [hstep, hopen]
      cases found <;> rfl

theorem closing_step {c d : Char} {r : List Char} (hc : c ≠ quote)
    (hescape : ¬ (c = '\\' ∧ d = quote)) (h : Closing quote (c :: seen) (d :: r)) :
    Closing quote seen (c :: d :: r) := by
  have hstep (spare : Option (List Char × List Char)) (x : List Char) :
      closeQuote quote spare seen (c :: d :: r ++ x) =
        closeQuote quote spare (c :: seen) (d :: r ++ x) := by
    rw [List.cons_append, List.cons_append, closeQuote, if_neg hc, if_neg hescape]
  cases h with
  | within v r' hr' hclosed => exact .within v r' hr' fun spare x => by rw [hstep, hclosed]
  | beyond found seen' hfound hopen =>
    exact .beyond found seen' hfound fun spare x => by rw [hstep, hopen]

theorem closing (hquote : isBreak quote = false) (seen : List Char) {q : List Char}
    (hq : Ended q) : Closing quote seen q := by
  match q, hq with
  | [], hq => exact (hq.ne_nil rfl).elim
  | [c], hq =>
    obtain ⟨u, d, hu, hd⟩ := hq
    have hlast := congrArg List.getLast? hu
    simp only [List.getLast?_singleton, List.getLast?_concat, Option.some.injEq] at hlast
    exact closing_break (hlast ▸ hd) hquote seen
  | c :: d :: r, hq =>
    have hd : Ended (d :: r) := hq.of_suffix (List.suffix_cons c _) (List.cons_ne_nil d r)
    by_cases hc : c = quote
    · exact .within seen.reverse (d :: r) hd fun spare x => by simp [closeQuote, hc]
    by_cases hescape : c = '\\' ∧ d = quote
    · obtain ⟨rfl, hquoted⟩ := hescape
      obtain rfl := hquoted.symm
      have hr : Ended r := hd.of_cons hquote
      exact closing_escape hc hr (closing hquote _ hr)
    · exact closing_step hc hescape (closing hquote _ hd)

end Quotations

section Scans

/-- What a scan does in front of a text, if it does not look into it. -/
def behind (x : List Char) : Scan α → Scan α
  | .ok (a, r) => .ok (a, r ++ x)
  | .error r => .error (r ++ x)

/-- Scans in front of each text: without certain quotation marks in it they are the same and end in
front of it, behind a line break; and they run into every text with one of them. -/
def Foreseen (scan : List Char → Scan α) : Prop :=
  ∃ (o : Scan α) (marks : List Char), Ended (rest o) ∧ (∀ m ∈ marks, IsMark m) ∧
    ∀ x, ((∀ m ∈ marks, m ∉ x) → scan x = behind x o) ∧
      ((∃ m ∈ marks, m ∈ x) → (rest (scan x)).length < x.length)

variable {scan : List Char → Scan α}

theorem Foreseen.congr {scan' : List Char → Scan α} (h : Foreseen scan)
    (he : ∀ x, scan' x = scan x) : Foreseen scan' :=
  (funext he : scan' = scan) ▸ h

theorem foreseen_behind {o : Scan α} (ho : Ended (rest o)) : Foreseen fun x => behind x o :=
  ⟨o, [], ho, nofun, fun _ => ⟨fun _ => rfl, fun ⟨_, hm, _⟩ => nomatch hm⟩⟩

theorem foreseen_of_mark {o : Scan α} {m : Char} (ho : Ended (rest o)) (hm : IsMark m)
    (h : ∀ x, m ∉ x → scan x = behind x o) (h' : ∀ x, m ∈ x → (rest (scan x)).length < x.length) :
    Foreseen scan := by
  refine ⟨o, [m], ho, by simpa using hm, fun x => ⟨fun hx => h x (by simpa using hx), ?_⟩⟩
  rintro ⟨m', hm', hx⟩
  rw [List.mem_singleton] at hm'
  exact h' x (hm' ▸ hx)

theorem Foreseen.bind {f : α × List Char → Scan β} (hscan : Foreseen scan)
    (hf : ∀ a r, Ended r → Foreseen fun x => f (a, r ++ x))
    (hrest : ∀ a r, rest (f (a, r)) <:+ r) : Foreseen fun x => (scan x).bind f := by
  obtain ⟨o, marks, ho, hmarks, hx⟩ := hscan
  have hover (x : List Char) (hm : ∃ m ∈ marks, m ∈ x) :
      (rest ((scan x).bind f)).length < x.length := by
    have hle := (rest_bind_suffix (x := scan x) fun a r _ => hrest a r).length_le
    exact Nat.lt_of_le_of_lt hle ((hx x).2 hm)
  cases o with
  | error r =>
    refine ⟨.error r, marks, ho, hmarks, fun x => ⟨fun hm => ?_, hover x⟩⟩
    simp only [(hx x).1 hm]
    rfl
  | ok found =>
    obtain ⟨a, r⟩ := found
    obtain ⟨o', marks', ho', hmarks', hx'⟩ := hf a r ho
    have hsecond (x : List Char) (hm : ∀ m ∈ marks, m ∉ x) : (scan x).bind f = f (a, r ++ x) := by
      rw [(hx x).1 hm]
      rfl
    refine ⟨o', marks ++ marks', ho', ?_, fun x => ⟨fun hm => ?_, fun hm => ?_⟩⟩
    · simpa [or_imp, forall_and] using ⟨hmarks, hmarks'⟩
    · simp only [hsecond x fun m hmem => hm m (List.mem_append_left _ hmem)]
      exact (hx' x).1 fun m hmem => hm m (List.mem_append_right _ hmem)
    · by_cases hfirst : ∃ m ∈ marks, m ∈ x
      · exact hover x hfirst
      · obtain ⟨m, hmem, hmx⟩ := hm
        have hmem' : m ∈ marks' :=
          (List.mem_append.mp hmem).resolve_left fun h => hfirst ⟨m, h, hmx⟩
        simp only [hsecond x fun m hmem hmx => hfirst ⟨m, hmem, hmx⟩]
        exact (hx' x).2 ⟨m, hmem', hmx⟩

theorem Foreseen.map (g : α → β) (h : Foreseen scan) :
    Foreseen fun x => (scan x).map fun (a, r) => (g a, r) := by
  have hbind := h.bind (f := fun (a, r) => .ok (g a, r))
    (fun a r hr => foreseen_behind (o := .ok (g a, r)) hr) (fun a r => List.suffix_refl r)
  refine hbind.congr fun x => ?_
  cases scan x <;> rfl

theorem readQuoted_cons (quote : Char) (q : List Char) : readQuoted quote (quote :: q) =
    match closeQuote quote none [] q with
    | some (v, r) => .ok (unescape quote v, r)
    | none => .error (quote :: q) := rfl

theorem foreseen_readQuoted {quote : Char} (hquote : IsMark quote) (hq : Ended q) :
    Foreseen fun x => readQuoted quote (quote :: (q ++ x)) := by
  cases closing hquote.not_break [] hq with
  | within v r hr hclosed =>
    refine (foreseen_behind (o := .ok (unescape quote v, r)) hr).congr fun x => ?_
    rw [readQuoted_cons, hclosed]
    rfl
  | beyond found seen hfound hopen =>
    have hover (x : List Char) (hx : quote ∈ x) :
        (rest (readQuoted quote (quote :: (q ++ x)))).length < x.length := by
      obtain ⟨v, r, hr, hlt⟩ :=
        closeQuote_of_mem ((found.map fun p => (p.1, p.2 ++ x)).or none) seen hx
      rw [readQuoted_cons, hopen, hr]
      exact hlt
    have hread (x : List Char) (hx : quote ∉ x) : readQuoted quote (quote :: (q ++ x)) =
        match found.map fun p => (p.1, p.2 ++ x) with
        | some (v, r) => .ok (unescape quote v, r)
        | none => .error (quote :: (q ++ x)) := by
      have hclosed : closeQuote quote none [] (q ++ x) = found.map fun p => (p.1, p.2 ++ x) := by
        rw [hopen, closeQuote_of_notMem hx, Option.or_none]
      rw [readQuoted_cons, hclosed]
    cases found with
    | none =>
      exact foreseen_of_mark (o := .error (quote :: q)) (hq.append [quote]) hquote hread hover
    | some p =>
      exact foreseen_of_mark (o := .ok (unescape quote p.1, p.2)) (hfound p rfl) hquote hread hover

theorem foreseen_readValue (hq : Ended q) : Foreseen fun x => readValue (q ++ x) := by
  cases q with
  | nil => exact (hq.ne_nil rfl).elim
  | cons c q =>
    by_cases hc : IsMark c
    · have hquoted := foreseen_readQuoted hc (hq.of_cons hc.not_break)
      exact hquoted.congr fun x => if_pos hc.symm
    · have htake := hq.takeWhile (p := (!isBreak ·)) fun _ => not_isBreak_break
      obtain ⟨hskip, hdrop⟩ := hq.dropWhile (p := (!isBreak ·)) fun _ => not_isBreak_break
      refine (foreseen_behind (o := .ok (unquotedValue ((c :: q).takeWhile (!isBreak ·)),
        (c :: q).dropWhile (!isBreak ·))) hskip).congr fun x => ?_
      have hread : readValue (c :: q ++ x) =
          .ok (unquotedValue ((c :: q ++ x).takeWhile (!isBreak ·)),
            (c :: q ++ x).dropWhile (!isBreak ·)) := if_neg fun h => hc h.symm
      rw [hread, htake, hdrop]
      rfl

theorem foreseen_readAssignment (hq : Ended q) : Foreseen fun x => readAssignment (q ++ x) := by
  cases q with
  | nil => exact (hq.ne_nil rfl).elim
  | cons c q =>
    by_cases hc : c = '='
    · subst hc
      have hq' : Ended q := hq.of_cons rfl
      obtain ⟨hskip, hdrop⟩ := hq'.dropGaps
      refine ((foreseen_readValue hskip).map some).congr fun x => ?_
      rw [List.cons_append, readAssignment, hdrop]
    · refine (foreseen_behind (o := .ok (none, c :: q)) hq).congr fun x => ?_
      rw [List.cons_append, readAssignment]
      · rfl
      · intro r hr
        exact hc (List.cons.inj hr).1

section Keys

variable {r ks : List Char} {k m : Char}

theorem readKey_closed {behind : List Char} (htake : r.takeWhile (· ≠ '\'') = k :: ks)
    (hdrop : r.dropWhile (· ≠ '\'') = m :: behind) :
    readKey ('\'' :: r) = .ok (some (String.ofList (k :: ks)), behind) := by
  simp only [readKey, htake, hdrop]

theorem readKey_empty (htake : r.takeWhile (· ≠ '\'') = []) :
    readKey ('\'' :: r) = .error ('\'' :: r) := by
  simp only [readKey, htake]

theorem readKey_open (hdrop : r.dropWhile (· ≠ '\'') = []) :
    readKey ('\'' :: r) = .error ('\'' :: r) := by
  simp only [readKey, hdrop]
  cases r.takeWhile (· ≠ '\'') <;> rfl

variable (hcomment : m ≠ '#') (hquote : m ≠ '\'')

include hcomment hquote

theorem readKey_word (htake : (m :: r).takeWhile isKeyChar = k :: ks) :
    readKey (m :: r) =
      .ok (some (String.ofList (k :: ks)), (m :: r).dropWhile isKeyChar) := by
  rw [readKey, htake]
  · exact fun r hr => hcomment (List.cons.inj hr).1
  · exact fun r hr => hquote (List.cons.inj hr).1

theorem readKey_wordless (htake : (m :: r).takeWhile isKeyChar = []) :
    readKey (m :: r) = .error (m :: r) := by
  rw [readKey, htake]
  · exact fun r hr => hcomment (List.cons.inj hr).1
  · exact fun r hr => hquote (List.cons.inj hr).1

end Keys

/-- A quoted key may run over line breaks, to the mark that closes it. -/
theorem foreseen_quotedKey (hq : Ended q) : Foreseen fun x => readKey ('\'' :: (q ++ x)) := by
  by_cases hmem : '\'' ∈ q
  · have hstop : ∃ c ∈ q, decide (c ≠ '\'') = false := ⟨'\'', hmem, rfl⟩
    have htake := takeWhile_append_of_stop hstop
    have hdrop := dropWhile_append_of_stop hstop
    obtain ⟨m, q', hq'⟩ := List.exists_cons_of_ne_nil (dropWhile_ne_nil_of_stop hstop)
    cases hkey : q.takeWhile (· ≠ '\'') with
    | nil =>
      refine (foreseen_behind (o := .error ('\'' :: q)) (hq.append ['\''])).congr fun x => ?_
      exact readKey_empty ((htake x).trans hkey)
    | cons k ks =>
      have hended : Ended (m :: q') := hq.of_suffix (hq' ▸ List.dropWhile_suffix _) (by simp)
      have hm : m = '\'' := by
        have hhead := List.head?_dropWhile_not (· ≠ '\'') q
        rw [hq'] at hhead
        simpa using hhead
      refine (foreseen_behind (o := .ok (some (String.ofList (k :: ks)), q'))
        (hended.of_cons (hm ▸ rfl))).congr fun x => ?_
      have hclosed := hdrop x
      rw [hq'] at hclosed
      exact readKey_closed ((htake x).trans hkey) hclosed
  · obtain ⟨k, ks, rfl⟩ := List.exists_cons_of_ne_nil hq.ne_nil
    have hall : ∀ c ∈ k :: ks, decide (c ≠ '\'') = true := by
      intro c hc
      exact decide_eq_true fun he => hmem (he ▸ hc)
    have htake (x : List Char) : (k :: ks ++ x).takeWhile (· ≠ '\'') =
        k :: ks ++ x.takeWhile (· ≠ '\'') := List.takeWhile_append_of_pos hall
    have hdrop (x : List Char) : (k :: ks ++ x).dropWhile (· ≠ '\'') =
        x.dropWhile (· ≠ '\'') := List.dropWhile_append_of_pos hall
    refine foreseen_of_mark (o := .error ('\'' :: k :: ks)) (hq.append ['\'']) (.inr rfl)
      (fun x hx => ?_) fun x hx => ?_
    · have hnone : x.dropWhile (· ≠ '\'') = [] := by
        rw [List.dropWhile_eq_nil_iff]
        exact fun c hc => decide_eq_true fun he => hx (he ▸ hc)
      exact readKey_open ((hdrop x).trans hnone)
    · have hstop : ∃ c ∈ x, decide (c ≠ '\'') = false := ⟨'\'', hx, rfl⟩
      obtain ⟨m, r, hr⟩ := List.exists_cons_of_ne_nil (dropWhile_ne_nil_of_stop hstop)
      have hle := (List.dropWhile_suffix (l := x) (· ≠ '\'')).length_le
      rw [readKey_closed (htake x) ((hdrop x).trans hr)]
      rw [hr] at hle
      exact hle

theorem foreseen_readKey (hq : Ended q) : Foreseen fun x => readKey (q ++ x) := by
  cases q with
  | nil => exact (hq.ne_nil rfl).elim
  | cons c q =>
    by_cases hcomment : c = '#'
    · subst hcomment
      exact foreseen_behind (o := .ok (none, '#' :: q)) hq
    by_cases hquote : c = '\''
    · subst hquote
      exact foreseen_quotedKey (hq.of_cons rfl)
    have htake := hq.takeWhile (p := isKeyChar) fun _ => isKeyChar_break
    obtain ⟨hskip, hdrop⟩ := hq.dropWhile (p := isKeyChar) fun _ => isKeyChar_break
    cases hkey : (c :: q).takeWhile isKeyChar with
    | nil =>
      refine (foreseen_behind (o := .error (c :: q)) hq).congr fun x => ?_
      exact readKey_wordless hcomment hquote ((htake x).trans hkey)
    | cons k ks =>
      refine (foreseen_behind (o := .ok (some (String.ofList (k :: ks)),
        (c :: q).dropWhile isKeyChar)) hskip).congr fun x => ?_
      have htake' := (htake x).trans hkey
      have hdrop' := hdrop x
      rw [List.cons_append] at htake' hdrop' ⊢
      rw [readKey_word hcomment hquote htake', hdrop']
      rfl

/-- No line break stands in the word before a key. -/
theorem not_ended_export {q : List Char} (h : q <+: "export".toList) : ¬ Ended q := by
  intro hq
  obtain ⟨c, hc, hbreak⟩ := hq.stops (p := (!isBreak ·)) fun _ => not_isBreak_break
  have hall : ∀ c ∈ "export".toList, isBreak c = false := by simp [isBreak]
  rw [hall c (h.subset hc)] at hbreak
  cases hbreak

theorem isPrefixOf_export_append (hq : Ended q) (x : List Char) :
    "export".toList.isPrefixOf (q ++ x) = "export".toList.isPrefixOf q := by
  rw [Bool.eq_iff_iff, List.isPrefixOf_iff_prefix, List.isPrefixOf_iff_prefix]
  refine ⟨fun h => ?_, fun h => h.trans (List.prefix_append q x)⟩
  rcases List.prefix_or_prefix_of_prefix h (List.prefix_append q x) with hword | hword
  · exact hword
  · exact (not_ended_export hword hq).elim

theorem skipExport_append (hq : Ended q) :
    Ended (skipExport q) ∧ ∀ x, skipExport (q ++ x) = skipExport q ++ x := by
  cases hword : "export".toList.isPrefixOf q with
  | false =>
    have hkeep (s : List Char) (h : "export".toList.isPrefixOf s = false) : skipExport s = s := by
      show (if ("export".toList.isPrefixOf s && _) = true then _ else s) = s
      rw [h]
      rfl
    refine ⟨(hkeep q hword).symm ▸ hq, fun x => ?_⟩
    rw [hkeep q hword, hkeep (q ++ x) ((isPrefixOf_export_append hq x).trans hword)]
  | true =>
    obtain ⟨r, rfl⟩ := List.isPrefixOf_iff_prefix.mp hword
    have hr : Ended r := by
      refine hq.of_suffix (List.suffix_append _ r) ?_
      rintro rfl
      rw [List.append_nil] at hq
      exact not_ended_export (List.prefix_refl _) hq
    have hskip (s : List Char) : skipExport ("export".toList ++ s) =
        if (s.head?.map isGap).getD false then s.dropWhile isGap else "export".toList ++ s := rfl
    have hhead (x : List Char) : (r ++ x).head? = r.head? := by
      obtain ⟨c, r', rfl⟩ := List.exists_cons_of_ne_nil hr.ne_nil
      rfl
    obtain ⟨hgaps, hdrop⟩ := hr.dropGaps
    refine ⟨?_, fun x => ?_⟩
    · rw [hskip]
      split
      · exact hgaps
      · exact hq
    · rw [List.append_assoc, hskip, hskip, hhead, hdrop]
      split <;> rfl

theorem foreseen_pairWith (key : Option String) (hq : Ended q) :
    Foreseen fun x => pairWith key (q ++ x) := by
  obtain ⟨hskip, hdrop⟩ := hq.dropGaps
  refine ((foreseen_readAssignment hskip).map fun value => (key, value)).congr fun x => ?_
  rw [pairWith, hdrop]

theorem foreseen_readPair (hq : Ended q) : Foreseen fun x => readPair (q ++ x) := by
  obtain ⟨hended, hexport⟩ := skipExport_append hq
  have hkey : Foreseen fun x => readKey (skipExport (q ++ x)) :=
    (foreseen_readKey hended).congr fun x => by rw [hexport]
  exact hkey.bind (fun key r hr => foreseen_pairWith key hr) fun key r => rest_pairWith key r

end Scans

section Lines

theorem skipLine_append (hq : Ended q) (x : List Char) : skipLine (q ++ x) = skipLine q ++ x := by
  have hstop := hq.stops (p := (!isBreak ·)) fun _ => not_isBreak_break
  obtain ⟨c, r, hr⟩ := List.exists_cons_of_ne_nil (dropWhile_ne_nil_of_stop hstop)
  rw [skipLine, skipLine, dropWhile_append_of_stop hstop, hr]
  rfl

theorem skipComment_append (hq : Ended q) :
    Ended (skipComment q) ∧ ∀ x, skipComment (q ++ x) = skipComment q ++ x := by
  obtain ⟨hgap, hdrop⟩ := hq.dropGaps
  obtain ⟨hend, hbody⟩ := hgap.dropWhile (p := (!isBreak ·)) fun _ => not_isBreak_break
  have hhead (x : List Char) : (q.dropWhile isGap ++ x).head? = (q.dropWhile isGap).head? := by
    obtain ⟨c, r, hr⟩ := List.exists_cons_of_ne_nil hgap.ne_nil
    rw [hr]
    rfl
  refine ⟨?_, fun x => ?_⟩
  · rw [skipComment]
    split
    · exact hend
    · exact hq
  · simp only [skipComment, hdrop, hhead, hbody]
    split <;> rfl

theorem skipLineEnd_append (hq : Ended q) (x : List Char) :
    skipLineEnd (q ++ x) = match skipLineEnd q with
      | .ok r => .ok (r ++ x)
      | .error r => .error (r ++ x) := by
  obtain ⟨hended, hcomment⟩ := skipComment_append hq
  obtain ⟨hgap, hdrop⟩ := hended.dropGaps
  obtain ⟨c, r, hr⟩ := List.exists_cons_of_ne_nil hgap.ne_nil
  rw [skipLineEnd_eq, skipLineEnd_eq, hcomment, hdrop, hr, List.cons_append]
  dsimp only
  split <;> rfl

theorem endLine_behind {o : Scan (Option String × Option (List Char))} (ho : Ended (rest o))
    (x : List Char) : endLine (behind x o) = ((endLine o).1, (endLine o).2 ++ x) := by
  cases o with
  | error r => exact congrArg (none, ·) (skipLine_append ho x)
  | ok found =>
    obtain ⟨p, r⟩ := found
    have hr : Ended r := ho
    rw [behind, endLine, endLine, skipLineEnd_append hr]
    cases hend : skipLineEnd r with
    | ok r' => rfl
    | error r' =>
      have hcomment : Ended r' := skipLineEnd_error hend ▸ (skipComment_append hr).1
      exact congrArg (none, ·) (skipLine_append hcomment x)

/-- The line in front of any text without certain quotation marks is the same; with one of them it
takes a part of the text. -/
theorem nextLine_append (hq : Ended q) (hline : ∃ c ∈ q, isSpacing c = false) :
    ∃ (b : Option Binding) (q' marks : List Char), (∀ m ∈ marks, IsMark m) ∧ ∀ x,
      ((∀ m ∈ marks, m ∉ x) → nextLine (q ++ x) = some (b, q' ++ x)) ∧
      ((∃ m ∈ marks, m ∈ x) → ∃ b' r, nextLine (q ++ x) = some (b', r) ∧ r.length < x.length) := by
  have hstart := dropWhile_append_of_stop hline
  obtain ⟨c, r, hr⟩ := List.exists_cons_of_ne_nil (dropWhile_ne_nil_of_stop hline)
  have hended : Ended (c :: r) :=
    hq.of_suffix (hr ▸ List.dropWhile_suffix _) (List.cons_ne_nil c r)
  have hnext (x : List Char) : nextLine (q ++ x) = some (endLine (readPair (c :: r ++ x))) := by
    rw [nextLine_eq, hstart, hr]
    rfl
  obtain ⟨o, marks, ho, hmarks, hx⟩ := foreseen_readPair hended
  refine ⟨(endLine o).1, (endLine o).2, marks, hmarks, fun x => ⟨fun hm => ?_, fun hm => ?_⟩⟩
  · have hpair : readPair (c :: r ++ x) = behind x o := (hx x).1 hm
    rw [hnext, hpair, endLine_behind ho]
  · have hle := (endLine_follows (readPair (c :: r ++ x))).suffix.length_le
    exact ⟨_, _, hnext x, Nat.lt_of_le_of_lt hle ((hx x).2 hm)⟩

end Lines

section Swapping

variable {bs : List Binding} {t' : List Char}

theorem Reads.ended (h : Reads (q ++ t) bs t) (ht : t ≠ []) : q = [] ∨ Ended q := by
  generalize hs : q ++ t = s at h
  induction h generalizing q with
  | here s => exact .inl (List.append_left_eq_self.mp hs)
  | line hline hr ih =>
    obtain ⟨q', rfl⟩ := hr.suffix
    rcases (nextLine_leaves hline).1 with hnil | ⟨u, c, hu, hc⟩
    · exact (ht (List.append_eq_nil_iff.mp hnil).2).elim
    · have hq : q = u ++ c :: q' := by
        rw [← hs, ← List.cons_append, ← List.append_assoc] at hu
        exact List.append_cancel_right hu
      rcases ih ht rfl with rfl | hended
      · exact .inr ⟨u, c, hq, hc⟩
      · rw [hq]
        exact .inr ((hended.append [c]).append u)

/-- A line that ends in front of a text takes more than white space in front of it. -/
theorem nonblank_of_nextLine {b : Option Binding} {q' : List Char}
    (h : nextLine (q ++ t) = some (b, q' ++ t)) : ∃ c ∈ q, isSpacing c = false := by
  by_contra hnone
  have hall : ∀ c ∈ q, isSpacing c = true := by simpa using hnone
  have hsame : nextLine (q ++ t) = nextLine t := by
    rw [nextLine_eq, nextLine_eq, List.dropWhile_append_of_pos hall]
  have hshorter := (nextLine_leaves (hsame ▸ h)).2
  rw [List.length_append] at hshorter
  omega

/-- Lines in front of a text are read alike in front of another that has no quotation mark that the
first has not. -/
theorem Reads.swap (h : Reads (q ++ t) bs t) (ht : t ≠ [])
    (hmarks : ∀ m, IsMark m → m ∈ t' → m ∈ t) : Reads (q ++ t') bs t' := by
  generalize hs : q ++ t = s at h
  induction h generalizing q with
  | here s =>
    rw [List.append_left_eq_self.mp hs]
    exact .here t'
  | @line s r t b bs hline hr ih =>
    subst hs
    obtain ⟨q', rfl⟩ := hr.suffix
    have hblank := nonblank_of_nextLine hline
    have hq : Ended q := by
      refine (Reads.ended (.line hline hr) ht).resolve_left ?_
      rintro rfl
      obtain ⟨c, hc, -⟩ := hblank
      cases hc
    obtain ⟨b', r', marks, hmark, hx⟩ := nextLine_append hq hblank
    have hnone : ∀ m ∈ marks, m ∉ t := by
      intro m hm hmt
      obtain ⟨b'', r'', hover, hlt⟩ := (hx t).2 ⟨m, hm, hmt⟩
      rw [hline] at hover
      cases hover
      rw [List.length_append] at hlt
      omega
    have hsame := (hx t).1 hnone
    rw [hline] at hsame
    obtain ⟨rfl, hr'⟩ := Prod.mk.inj (Option.some.inj hsame)
    obtain rfl := List.append_cancel_right hr'
    have hother := (hx t').1 fun m hm hmt => hnone m hm (hmarks m (hmark m hm) hmt)
    exact .line hother (ih ht hmarks rfl)

end Swapping

end Courier.EnvFile
