import Courier.Proofs.Number.Order
import Courier.Service.Metrics
import Mathlib.Algebra.BigOperators.Group.List.Lemmas

/-! What the counters and histograms say, in terms of the measurements behind them. -/

namespace Courier.Service

/-- The sum of the counts of all keys of a kind. -/
def totalOf {α : Type} (p : α → Bool) (counts : List (α × Nat)) : Nat :=
  ((counts.filter (p ·.1)).map (·.2)).sum

def countOf {α : Type} [DecidableEq α] (key : α) (counts : List (α × Nat)) : Nat :=
  (counts.lookup key).getD 0

section Tally

variable {α : Type} [DecidableEq α]

theorem nodup_eraseDups : (xs : List α) → xs.eraseDups.Nodup
  | [] => by simp
  | x :: xs => by
    rw [List.eraseDups_cons, List.nodup_cons]
    refine ⟨?_, nodup_eraseDups _⟩
    simp [List.mem_eraseDups]
termination_by xs => xs.length
decreasing_by exact Nat.lt_succ_of_le (List.length_filter_le _ _)

theorem members_perm (before : α → α → Bool) (xs : List α) :
    (xs.eraseDups.mergeSort before).Perm xs.dedup := by
  have h : xs.eraseDups.Perm xs.dedup := by
    rw [List.perm_ext_iff_of_nodup (nodup_eraseDups xs) xs.nodup_dedup]
    simp [List.mem_eraseDups]
  exact (List.mergeSort_perm _ _).trans h

theorem lookup_map_self {β : Type} (f : α → β) (key : α) (ys : List α) :
    (ys.map fun x => (x, f x)).lookup key = if key ∈ ys then some (f key) else none := by
  induction ys with
  | nil => simp
  | cons y ys ih =>
    rw [List.map_cons, List.lookup_cons, ih]
    by_cases h : key = y
    · simp [h]
    · simp [h, beq_false_of_ne h]

theorem totalOf_tally (before : α → α → Bool) (p : α → Bool) (xs : List α) :
    totalOf p (tally before xs) = xs.countP p := by
  calc totalOf p (tally before xs)
    _ = (((xs.eraseDups.mergeSort before).filter p).map xs.count).sum := by
      simp only [totalOf, tally, List.filter_map, List.map_map]
      rfl
    _ = ((xs.dedup.filter p).map xs.count).sum :=
      (((members_perm before xs).filter p).map _).sum_eq
    _ = xs.countP p := List.sum_map_count_dedup_filter_eq_countP p xs

theorem countOf_tally (before : α → α → Bool) (key : α) (xs : List α) :
    countOf key (tally before xs) = xs.countP (· = key) := by
  have hm : key ∈ xs.eraseDups.mergeSort before ↔ key ∈ xs :=
    (members_perm before xs).mem_iff.trans List.mem_dedup
  have hc : xs.countP (· = key) = xs.count key := by
    rw [List.count_eq_countP]
    simp only [beq_eq_decide]
  rw [countOf, tally, lookup_map_self, hc]
  by_cases h : key ∈ xs
  · simp [hm, h]
  · simp [hm, h, List.count_eq_zero.mpr h]

end Tally

namespace Histogram

variable (xs : List Double)

theorem bounds_pairwise :
    (bucketBounds.map Double.ofRat ++ [Double.infinite false]).Pairwise fun a b =>
      a.le b = true := by
  decide +kernel

theorem below_pairwise : ((Histogram.of xs).below.map (·.2)).Pairwise (· ≤ ·) := by
  simp only [Histogram.of, List.map_map, List.pairwise_map]
  refine bounds_pairwise.imp fun hab => List.countP_mono_left fun x _ hx => ?_
  exact Double.le_trans hx hab

theorem below_getLast? :
    (Histogram.of xs).below.getLast? = some (.infinite false, (Histogram.of xs).count) := by
  simp [Histogram.of]

/-- All durations are counted but those that are no numbers. -/
theorem count_add_nan : (Histogram.of xs).count + xs.countP (· = .nan) = xs.length := by
  have h : (fun x : Double => decide ¬ x.le (.infinite false) = true) =
      fun x => decide (x = .nan) := by
    funext x
    simp only [Double.le_infinite, not_not]
  have hc := xs.length_eq_countP_add_countP (·.le (.infinite false))
  rw [h] at hc
  exact hc.symm

end Histogram

namespace Metrics

variable (m : Metrics) (l : Label)

def requestsUnder : Nat := totalOf (·.1 = l) m.requestCounts

def retriesUnder : Nat := totalOf (·.1 = l) m.retryCounts

def durationsUnder : Nat := ((m.histograms.lookup l).map (·.count)).getD 0

theorem requestsUnder_eq : m.requestsUnder l = m.requests.countP (·.label = l) := by
  rw [requestsUnder, requestCounts, totalOf_tally, List.countP_map]
  rfl

theorem retriesUnder_eq : m.retriesUnder l = m.retries.countP (·.label = l) := by
  rw [retriesUnder, retryCounts, totalOf_tally, List.countP_map]
  rfl

theorem countOf_requestCounts (key : Label × String) :
    countOf key m.requestCounts = m.requests.countP fun x => (x.label, x.status) = key := by
  rw [requestCounts, countOf_tally, List.countP_map]
  rfl

theorem countOf_retryCounts (key : Label × String) :
    countOf key m.retryCounts = m.retries.countP fun x => (x.label, x.cause) = key := by
  rw [retryCounts, countOf_tally, List.countP_map]
  rfl

theorem durationsUnder_eq : m.durationsUnder l = (Histogram.of (m.durationsOf l)).count := by
  have hm : l ∈ (m.requests.map (·.label)).eraseDups.mergeSort
      (fun a b => textsBefore a.texts b.texts) ↔ l ∈ m.requests.map (·.label) :=
    (members_perm _ _).mem_iff.trans List.mem_dedup
  rw [durationsUnder, histograms, lookup_map_self]
  by_cases h : l ∈ m.requests.map (·.label)
  · simp only [hm, h, if_true, Option.map_some, Option.getD_some]
  · have he : m.durationsOf l = [] := by
      rw [durationsOf, List.map_eq_nil_iff, List.filter_eq_nil_iff]
      intro x hx hl
      exact h (List.mem_map.mpr ⟨x, hx, by simpa using hl⟩)
    simp [hm, h, he, Histogram.of]

/-- A label's durations are as many as its requests, unless one of them is no number. -/
theorem durationsUnder_eq_iff :
    m.durationsUnder l = m.requestsUnder l ↔
      ∀ x ∈ m.requests, x.label = l → x.seconds ≠ .nan := by
  have hl : (m.durationsOf l).length = m.requests.countP (·.label = l) := by
    rw [durationsOf, List.length_map, List.countP_eq_length_filter]
  rw [durationsUnder_eq, requestsUnder_eq, ← hl, ← Histogram.count_add_nan, left_eq_add,
    List.countP_eq_zero]
  simp only [durationsOf, List.mem_map, List.mem_filter, decide_eq_true_eq]
  exact ⟨fun h x hx hl => h _ ⟨x, ⟨hx, hl⟩, rfl⟩, fun h _ ⟨x, ⟨hx, hl⟩, hs⟩ => hs ▸ h x hx hl⟩

end Metrics

end Courier.Service
