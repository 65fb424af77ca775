import Courier.Settings.Cache
import Mathlib.Data.List.Basic

/-! The cache of settings along steps. It keeps the settings of the first use that succeeds, until it is
cleared, and a use that fails leaves no trace in it. -/

namespace Courier.Settings

/-- What a step does to the cache over the sources, and its answer. -/
inductive Turned (s : Sources) (c : Cache) :
    CacheStep → Option (Checked (Nat × Settings)) → Cache → Prop
  | idle {step : CacheStep} (hget : step ≠ .get) (hclear : step ≠ .clear) : Turned s c step none c
  | cleared : Turned s c .clear none c.clear
  | kept {x : Nat × Settings} (h : c.kept = some x) : Turned s c .get (some (.ok x)) c
  | loaded {v : Settings} (h : c.kept = none) (hload : load s = .ok v) :
    Turned s c .get (some (.ok (c.made, v))) ⟨some (c.made, v), c.made + 1⟩
  | failed {fs : List Fault} (h : c.kept = none) (hload : load s = .faulty fs) :
    Turned s c .get (some (.faulty fs)) c

/-- What is kept has a number below those of later objects. -/
def Cache.Numbered (c : Cache) : Prop := ∀ x, c.kept = some x → x.1 < c.made

/-- What is kept and what is made later have numbers above `n`. -/
def Cache.Above (n : Nat) (c : Cache) : Prop := n < c.made ∧ ∀ x, c.kept = some x → n < x.1

section Steps

variable {s : Sources} {c c' : Cache} {step : CacheStep} {x : Nat × Settings} {n : Nat}
variable {a : Option (Checked (Nat × Settings))}

theorem run_sources (step : CacheStep) (s : Sources) (c : Cache) :
    (step.run s c).2.1 = step.sources s := by
  cases step <;> rfl

theorem run_turned (step : CacheStep) (s : Sources) (c : Cache) :
    Turned s c step (step.run s c).1 (step.run s c).2.2 := by
  cases step with
  | change | removeFile => exact .idle nofun nofun
  | clear => exact .cleared
  | get =>
    simp only [CacheStep.run, Cache.get]
    cases hc : c.kept with
    | some x => exact .kept hc
    | none =>
      cases hload : load s with
      | ok v => exact .loaded hc hload
      | faulty fs => exact .failed hc hload

namespace Turned

theorem keeps (h : Turned s c step a c') (hclear : step ≠ .clear) (hc : c.kept = some x) :
    c'.kept = some x := by
  cases h with
  | idle | kept | failed => exact hc
  | cleared => exact (hclear rfl).elim
  | loaded hnone =>
    rw [hnone] at hc
    cases hc

theorem keeps_nothing (h : Turned s c step a c') (hget : step ≠ .get) (hc : c.kept = none) :
    c'.kept = none := by
  cases h with
  | idle => exact hc
  | cleared => rfl
  | kept | loaded | failed => exact (hget rfl).elim

theorem keeps_answer (h : Turned s c step (some (.ok x)) c') : c'.kept = some x := by
  cases h with
  | kept hc => exact hc
  | loaded => rfl

theorem get_iff_answer (h : Turned s c step a c') : step = .get ↔ ∃ b, a = some b := by
  cases h with
  | idle hget => simp [hget]
  | cleared => simp
  | kept | loaded | failed => simp

theorem answer_of_kept (h : Turned s c .get a c') (hc : c.kept = some x) : a = some (.ok x) := by
  cases h with
  | idle hget => exact (hget rfl).elim
  | kept hx => rw [Option.some.inj (hx.symm.trans hc)]
  | loaded hnone | failed hnone =>
    rw [hnone] at hc
    cases hc

theorem answer_of_nothing (h : Turned s c .get a c') (hc : c.kept = none) :
    ∃ b, a = some b ∧ b.map (·.2) = load s := by
  cases h with
  | idle hget => exact (hget rfl).elim
  | kept hx =>
    rw [hc] at hx
    cases hx
  | loaded _ hload | failed _ hload => exact ⟨_, rfl, hload.symm⟩

/-- What is kept behind a step was kept before it, or the step has just loaded it. -/
theorem origin (h : Turned s c step a c') (hkept : c'.kept = some x) : step ≠ .clear ∧
    (c.kept = some x ∨ c.kept = none ∧ a = some (.ok x) ∧ load s = .ok x.2) := by
  cases h with
  | idle _ hclear => exact ⟨hclear, .inl hkept⟩
  | cleared => cases hkept
  | kept | failed => exact ⟨nofun, .inl hkept⟩
  | loaded hnone hload =>
    obtain rfl := Option.some.inj hkept
    exact ⟨nofun, .inr ⟨hnone, rfl, hload⟩⟩

theorem of_failed {fs : List Fault} (h : Turned s c step (some (.faulty fs)) c') :
    step = .get ∧ c' = c ∧ c.kept = none ∧ load s = .faulty fs := by
  cases h with
  | failed hc hload => exact ⟨rfl, rfl, hc, hload⟩

theorem made_le (h : Turned s c step a c') : c.made ≤ c'.made := by
  cases h with
  | idle | cleared | kept | failed => exact Nat.le_refl _
  | loaded => exact Nat.le_succ _

theorem numbered (h : Turned s c step a c') (hc : c.Numbered) : c'.Numbered := by
  cases h with
  | idle | kept | failed => exact hc
  | cleared => exact nofun
  | loaded =>
    rintro x ⟨⟩
    exact Nat.lt_succ_self _

theorem above (h : Turned s c step a c') (hc : c.Above n) : c'.Above n := by
  cases h with
  | idle | kept | failed => exact hc
  | cleared => exact ⟨hc.1, nofun⟩
  | loaded =>
    refine ⟨Nat.lt_succ_of_lt hc.1, ?_⟩
    rintro x ⟨⟩
    exact hc.1

end Turned

end Steps

/-- The sources behind steps. The cache has no part in them. -/
def sourcesAfter (s : Sources) (steps : List CacheStep) : Sources :=
  steps.foldl (fun s step => step.sources s) s

/-- The cache behind steps. -/
def cacheAfter (s : Sources) (c : Cache) : List CacheStep → Cache
  | [] => c
  | step :: steps => cacheAfter (step.sources s) (step.run s c).2.2 steps

/-- The sources as they are when the step at a place is taken. -/
def sourcesAt (s : Sources) (steps : List CacheStep) (i : Nat) : Sources :=
  sourcesAfter s (steps.take i)

/-- The cache, empty at the start, as it is when the step at a place is taken. -/
def cacheAt (s : Sources) (steps : List CacheStep) (i : Nat) : Cache :=
  cacheAfter s {} (steps.take i)

/-- The step at a place is a use of the cache, and this is its answer. -/
def Answered (s : Sources) (steps : List CacheStep) (i : Nat) (a : Checked (Nat × Settings)) : Prop :=
  (runCacheSteps s {} steps)[i]? = some (some a)

/-- No clearing lies between two places. -/
def Uncleared (steps : List CacheStep) (i j : Nat) : Prop :=
  ∀ m, i < m → m < j → steps[m]? ≠ some .clear

theorem Uncleared.succ {steps : List CacheStep} {i j : Nat} (h : Uncleared steps i j)
    (hj : steps[j]? ≠ some .clear) : Uncleared steps i (j + 1) := by
  intro m him hmj
  rcases Nat.lt_succ_iff_lt_or_eq.mp hmj with hm | rfl
  · exact h m him hm
  · exact hj

/-- Of the uses up to `i` since the last clearing, or since the start, the one at `f` is the first that
succeeded. -/
structure FirstSuccess (s : Sources) (steps : List CacheStep) (x : Nat × Settings) (f i : Nat) :
    Prop where
  le : f ≤ i
  answered : Answered s steps f (.ok x)
  uncleared : Uncleared steps f i
  first : ∀ m y, m < f → Answered s steps m (.ok y) → ¬ Uncleared steps m f

section Runs

theorem runCacheSteps_getElem? (s : Sources) (c : Cache) (steps : List CacheStep) (i : Nat) :
    (runCacheSteps s c steps)[i]? = steps[i]?.map fun step =>
      (step.run (sourcesAfter s (steps.take i)) (cacheAfter s c (steps.take i))).1 := by
  induction steps generalizing s c i with
  | nil => rfl
  | cons step steps ih =>
    cases i with
    | zero => rfl
    | succ i =>
      simp only [runCacheSteps, run_sources, List.getElem?_cons_succ, ih]
      rfl

theorem cacheAfter_concat (s : Sources) (c : Cache) (steps : List CacheStep) (step : CacheStep) :
    cacheAfter s c (steps ++ [step]) =
      (step.run (sourcesAfter s steps) (cacheAfter s c steps)).2.2 := by
  induction steps generalizing s c with
  | nil => rfl
  | cons first steps ih => exact ih (first.sources s) (first.run s c).2.2

/-- A use that fails may as well be left out. -/
theorem runCacheSteps_eraseIdx {s : Sources} {c : Cache} {steps : List CacheStep} {i : Nat}
    {fs : List Fault} (h : (runCacheSteps s c steps)[i]? = some (some (.faulty fs))) :
    runCacheSteps s c (steps.eraseIdx i) = (runCacheSteps s c steps).eraseIdx i := by
  induction steps generalizing s c i with
  | nil => rfl
  | cons step steps ih =>
    cases i with
    | zero =>
      have hanswer : (step.run s c).1 = some (.faulty fs) := Option.some.inj h
      obtain ⟨rfl, hcache, -⟩ := (hanswer ▸ run_turned step s c).of_failed
      simp only [runCacheSteps, List.eraseIdx_cons_zero, hcache]
      rfl
    | succ i => exact congrArg (List.cons _) (ih h)

variable {s : Sources} {steps : List CacheStep} {step : CacheStep} {i j : Nat}
variable {x y : Nat × Settings}

theorem cacheAt_end (h : steps[i]? = none) : cacheAt s steps (i + 1) = cacheAt s steps i := by
  have hlen : steps.length ≤ i := List.getElem?_eq_none_iff.mp h
  rw [cacheAt, cacheAt, List.take_of_length_le hlen, List.take_of_length_le (Nat.le_succ_of_le hlen)]

theorem turned_at (s : Sources) (h : steps[i]? = some step) :
    ∃ a, (runCacheSteps s {} steps)[i]? = some a ∧
      Turned (sourcesAt s steps i) (cacheAt s steps i) step a (cacheAt s steps (i + 1)) := by
  have hnext : cacheAt s steps (i + 1) =
      (step.run (sourcesAt s steps i) (cacheAt s steps i)).2.2 := by
    rw [cacheAt, List.take_add_one, h, Option.toList_some, cacheAfter_concat]
    rfl
  refine ⟨_, by rw [runCacheSteps_getElem?, h, Option.map_some], ?_⟩
  rw [hnext]
  exact run_turned step _ _

theorem Answered.turned {a : Checked (Nat × Settings)} (h : Answered s steps i a) :
    steps[i]? = some .get ∧
      Turned (sourcesAt s steps i) (cacheAt s steps i) .get (some a) (cacheAt s steps (i + 1)) := by
  have hrun := (runCacheSteps_getElem? s {} steps i).symm.trans h
  obtain ⟨step, hstep, -⟩ := Option.map_eq_some_iff.mp hrun
  obtain ⟨b, hb, hturned⟩ := turned_at s hstep
  obtain rfl : b = some a := Option.some.inj (hb.symm.trans h)
  obtain rfl := hturned.get_iff_answer.mpr ⟨_, rfl⟩
  exact ⟨hstep, hturned⟩

/-- What every step between two places keeps of the cache, all of them together keep. -/
theorem cacheAt_invariant {P : Cache → Prop} (hij : i ≤ j)
    (hstep : ∀ k step, i ≤ k → k < j → steps[k]? = some step →
      ∀ s c a c', Turned s c step a c' → P c → P c')
    (h : P (cacheAt s steps i)) : P (cacheAt s steps j) := by
  induction hij with
  | refl => exact h
  | @step j hij ih =>
    have hj := ih fun k step hk hkj => hstep k step hk (Nat.lt_succ_of_lt hkj)
    cases hend : steps[j]? with
    | none => exact (cacheAt_end hend).symm ▸ hj
    | some step =>
      obtain ⟨a, -, hturned⟩ := turned_at s hend
      exact hstep j step hij (Nat.lt_succ_self j) hend _ _ _ _ hturned hj

theorem kept_at (hij : i < j) (hclear : Uncleared steps i j)
    (h : (cacheAt s steps (i + 1)).kept = some x) : (cacheAt s steps j).kept = some x := by
  refine cacheAt_invariant (P := fun c => c.kept = some x) hij
    (fun k step hk hkj hstep _ _ _ _ hturned => hturned.keeps ?_) h
  rintro rfl
  exact hclear k hk hkj hstep

theorem nothing_at (hij : i < j) (hget : ∀ m, i < m → m < j → steps[m]? ≠ some .get)
    (h : (cacheAt s steps (i + 1)).kept = none) : (cacheAt s steps j).kept = none := by
  refine cacheAt_invariant (P := fun c => c.kept = none) hij
    (fun k step hk hkj hstep _ _ _ _ hturned => hturned.keeps_nothing ?_) h
  rintro rfl
  exact hget k hk hkj hstep

theorem numbered_at (s : Sources) (steps : List CacheStep) (i : Nat) : (cacheAt s steps i).Numbered :=
  cacheAt_invariant (Nat.zero_le i) (fun _ _ _ _ _ _ _ _ _ h => h.numbered) nofun

theorem above_at {n : Nat} (hij : i ≤ j) (h : (cacheAt s steps i).Above n) :
    (cacheAt s steps j).Above n :=
  cacheAt_invariant hij (fun _ _ _ _ _ _ _ _ _ h => h.above) h

/-- An object made behind a clearing is a new one. -/
theorem lt_of_cleared {m : Nat} (him : i < m) (hmj : m < j) (hm : steps[m]? = some .clear)
    (hi : Answered s steps i (.ok x)) (hj : Answered s steps j (.ok y)) : x.1 < y.1 := by
  -- Before the clearing more objects were made than the number of this one, and later ones have
  -- the numbers from there on.
  have hbehind := numbered_at s steps (i + 1) x hi.turned.2.keeps_answer
  have hmade : x.1 < (cacheAt s steps m).made :=
    cacheAt_invariant (P := fun c => x.1 < c.made) him
      (fun _ _ _ _ _ _ _ _ _ h hc => Nat.lt_of_lt_of_le hc h.made_le) hbehind
  obtain ⟨a, -, hturned⟩ := turned_at s hm
  have habove : (cacheAt s steps (m + 1)).Above x.1 := by
    generalize cacheAt s steps (m + 1) = c at hturned
    cases hturned with
    | idle _ hclear => exact (hclear rfl).elim
    | cleared => exact ⟨hmade, nofun⟩
  exact (above_at (Nat.succ_le_succ (Nat.le_of_lt hmj)) habove).2 y hj.turned.2.keeps_answer

theorem Answered.again (hi : Answered s steps i (.ok x)) (hij : i < j)
    (hclear : Uncleared steps i j) (hget : steps[j]? = some .get) : Answered s steps j (.ok x) := by
  obtain ⟨a, ha, hturned⟩ := turned_at s hget
  have hkept := kept_at hij hclear hi.turned.2.keeps_answer
  rw [Answered, ha, hturned.answer_of_kept hkept]

/-- Two uses give the same object exactly if no clearing lies between them. -/
theorem Answered.same_iff (hi : Answered s steps i (.ok x)) (hj : Answered s steps j (.ok y))
    (hij : i < j) : x.1 = y.1 ↔ Uncleared steps i j := by
  constructor
  · intro hsame m him hmj hm
    exact Nat.ne_of_lt (lt_of_cleared him hmj hm hi hj) hsame
  · intro hclear
    have hagain : Answered s steps j (.ok x) := hi.again hij hclear hj.turned.1
    have hxy : some (some (Checked.ok x)) = some (some (.ok y)) := hagain.symm.trans hj
    cases hxy
    rfl

/-- What is kept was loaded at an earlier place, where nothing was kept, and not cleared since. -/
theorem kept_origin (h : (cacheAt s steps i).kept = some x) :
    ∃ f < i, (cacheAt s steps f).kept = none ∧ Answered s steps f (.ok x) ∧
      load (sourcesAt s steps f) = .ok x.2 ∧ Uncleared steps f i := by
  induction i with
  | zero => cases h
  | succ i ih =>
    cases hend : steps[i]? with
    | none =>
      rw [cacheAt_end hend] at h
      obtain ⟨f, hfi, hnone, hanswered, hload, hclear⟩ := ih h
      exact ⟨f, Nat.lt_succ_of_lt hfi, hnone, hanswered, hload, hclear.succ (by simp [hend])⟩
    | some step =>
      obtain ⟨a, ha, hturned⟩ := turned_at s hend
      obtain ⟨hstep, hkept | ⟨hnone, rfl, hload⟩⟩ := hturned.origin h
      · obtain ⟨f, hfi, hnone, hanswered, hload, hclear⟩ := ih hkept
        exact ⟨f, Nat.lt_succ_of_lt hfi, hnone, hanswered, hload, hclear.succ (by simp [hend, hstep])⟩
      · exact ⟨i, Nat.lt_succ_self i, hnone, ha, hload, fun m him hmi => by omega⟩

/-- Nothing is kept at a place, so no use since the last clearing has succeeded. -/
theorem not_uncleared_of_nothing (hnone : (cacheAt s steps j).kept = none) (hij : i < j)
    (hi : Answered s steps i (.ok x)) : ¬ Uncleared steps i j := by
  intro hclear
  have hkept := kept_at hij hclear hi.turned.2.keeps_answer
  rw [hnone] at hkept
  cases hkept

theorem Answered.firstSuccess (h : Answered s steps i (.ok x)) :
    ∃ f, FirstSuccess s steps x f i ∧ load (sourcesAt s steps f) = .ok x.2 := by
  -- Behind the use its answer is kept, so the use itself may be the place where it was loaded.
  obtain ⟨f, hfi, hnone, hanswered, hload, hclear⟩ := kept_origin h.turned.2.keeps_answer
  exact ⟨f, ⟨Nat.le_of_lt_succ hfi, hanswered, fun m hfm hmi => hclear m hfm (Nat.lt_succ_of_lt hmi),
    fun m y hmf hm => not_uncleared_of_nothing hnone hmf hm⟩, hload⟩

/-- A use that fails is answered by the sources alone, and so is the next use. -/
theorem Answered.failed {fs : List Fault} (h : Answered s steps i (.faulty fs)) :
    load (sourcesAt s steps i) = .faulty fs ∧ ∀ j, i < j → steps[j]? = some .get →
      (∀ m, i < m → m < j → steps[m]? ≠ some .get) →
      ∃ a, Answered s steps j a ∧ a.map (·.2) = load (sourcesAt s steps j) := by
  obtain ⟨-, hcache, hnone, hload⟩ := h.turned.2.of_failed
  refine ⟨hload, fun j hij hget hbetween => ?_⟩
  obtain ⟨a, ha, hturned⟩ := turned_at s hget
  obtain ⟨b, rfl, hb⟩ := hturned.answer_of_nothing (nothing_at hij hbetween (hcache ▸ hnone))
  exact ⟨b, ha, hb⟩

theorem get_iff_answered (s : Sources) (steps : List CacheStep) (i : Nat) :
    steps[i]? = some .get ↔ ∃ a, Answered s steps i a := by
  constructor
  · intro hget
    obtain ⟨a, ha, hturned⟩ := turned_at s hget
    obtain ⟨b, rfl⟩ := hturned.get_iff_answer.mp rfl
    exact ⟨b, ha⟩
  · rintro ⟨a, ha⟩
    exact ha.turned.1

end Runs

/-- Along any steps each use of the cache is answered, and nothing else. Two uses that succeed give the
same object exactly if no clearing lies between them; such an object is given again until the cache is
cleared, whatever becomes of the sources. Its settings are those of the sources at the first use that
succeeded since the last clearing. A use that fails does so as the sources say, could as well be left
out, and leaves the next use to the sources again. -/
theorem kept_until_cleared (s : Sources) (steps : List CacheStep) :
    (∀ i, steps[i]? = some .get ↔ ∃ a, Answered s steps i a) ∧
    (∀ i j x y, i < j → Answered s steps i (.ok x) → Answered s steps j (.ok y) →
      (x.1 = y.1 ↔ Uncleared steps i j)) ∧
    (∀ i j x, i < j → Answered s steps i (.ok x) → Uncleared steps i j → steps[j]? = some .get →
      Answered s steps j (.ok x)) ∧
    (∀ i x, Answered s steps i (.ok x) →
      ∃ f, FirstSuccess s steps x f i ∧ load (sourcesAt s steps f) = .ok x.2) ∧
    ∀ i fs, Answered s steps i (.faulty fs) →
      load (sourcesAt s steps i) = .faulty fs ∧
      runCacheSteps s {} (steps.eraseIdx i) = (runCacheSteps s {} steps).eraseIdx i ∧
      ∀ j, i < j → steps[j]? = some .get → (∀ m, i < m → m < j → steps[m]? ≠ some .get) →
        ∃ a, Answered s steps j a ∧ a.map (·.2) = load (sourcesAt s steps j) := by
  refine ⟨get_iff_answered s steps, ?_, ?_, ?_, ?_⟩
  · exact fun i j x y hij hi hj => hi.same_iff hj hij
  · exact fun i j x hij hi hclear hget => hi.again hij hclear hget
  · exact fun i x h => h.firstSuccess
  · intro i fs h
    obtain ⟨hload, hnext⟩ := h.failed
    exact ⟨hload, runCacheSteps_eraseIdx h, hnext⟩

namespace Sample

/-- A number of retries that cannot be read, then a file with one that can, which is taken away again
before the cache is cleared. -/
def mended : List CacheStep :=
  [.change [("HTTP_CLIENT_MAX_RETRIES", some "many")] none, .get,
    .change [("HTTP_CLIENT_MAX_RETRIES", none)] (some "HTTP_CLIENT_MAX_RETRIES=7\n"), .get,
    .removeFile, .get, .clear, .get]

end Sample

open Sample in
theorem kept_until_cleared_mended :
    Answered {} mended 1 (.faulty [⟨[.field "HTTP_CLIENT_MAX_RETRIES"], .intParsing⟩]) ∧
      load (sourcesAt {} mended 1) =
        .faulty [⟨[.field "HTTP_CLIENT_MAX_RETRIES"], .intParsing⟩] ∧
      Answered {} mended 3 (.ok (0, { defaults with maxRetries := 7 })) ∧
      Answered {} mended 5 (.ok (0, { defaults with maxRetries := 7 })) ∧
      Answered {} mended 7 (.ok (1, defaults)) ∧ Uncleared mended 3 5 ∧ ¬ Uncleared mended 5 7 := by
  obtain ⟨-, hsame, hagain, -, hfailed⟩ := kept_until_cleared {} mended
  have hmany : Answered {} mended 1
      (.faulty [⟨[.field "HTTP_CLIENT_MAX_RETRIES"], .intParsing⟩]) := rfl
  have hseven : Answered {} mended 3 (.ok (0, { defaults with maxRetries := 7 })) := rfl
  have hnew : Answered {} mended 7 (.ok (1, defaults)) := rfl
  have hclear : Uncleared mended 3 5 := by
    intro m hm hm'
    obtain rfl : m = 4 := by omega
    exact nofun
  have hstill := hagain 3 5 _ (by decide) hseven hclear rfl
  refine ⟨hmany, (hfailed 1 _ hmany).1, hseven, hstill, hnew, hclear, fun h => ?_⟩
  exact absurd ((hsame 5 7 _ _ (by decide) hstill hnew).mpr h) (by decide)

end Courier.Settings
