import Courier.Service.Failure
import Mathlib.Logic.Relation

/-! The tree of failure classes. The class tests of the client are paths up this tree. -/

namespace Courier.Service

namespace FailureClass

/-- Being a class or a kind of it, by any number of steps up the tree. -/
def Descends : FailureClass → FailureClass → Prop :=
  Relation.ReflTransGen fun c p => c.parent? = some p

theorem self_mem_lineage (n : Nat) (c : FailureClass) : c ∈ lineage n c := by
  cases n with
  | zero => simp [lineage]
  | succ n => unfold lineage; split <;> simp

theorem lineage_of_parent {c p : FailureClass} (h : c.parent? = some p) :
    lineage 4 c = c :: lineage 4 p := by
  cases c <;> simp only [parent?, reduceCtorEq, Option.some.injEq] at h <;> subst h <;> rfl

theorem descends_of_mem_lineage {n : Nat} {c d : FailureClass} (h : d ∈ lineage n c) :
    Descends c d := by
  induction n generalizing c with
  | zero =>
    have he : d = c := by simpa [lineage] using h
    exact he ▸ .refl
  | succ n ih =>
    unfold lineage at h
    split at h
    next p hp =>
      rcases List.mem_cons.mp h with rfl | h
      · exact .refl
      · exact (ih h).head hp
    next =>
      have he : d = c := by simpa using h
      exact he ▸ .refl

theorem isA_iff_descends {c d : FailureClass} : c.isA d = true ↔ Descends c d := by
  simp only [isA, List.contains_iff_mem]
  refine ⟨descends_of_mem_lineage, fun h => ?_⟩
  induction h using Relation.ReflTransGen.head_induction_on with
  | refl => exact self_mem_lineage 4 d
  | head hp _ ih =>
    rw [lineage_of_parent hp]
    exact List.mem_cons_of_mem _ ih

theorem status?_eq_some_iff {c : FailureClass} {n : Int} :
    c.status? = some n ↔ c = .httpStatusError n := by
  cases c <;> simp [status?]

/-- The classes that are tried again: timeouts, troubles of the network, and bad statuses. -/
def Retryable (c : FailureClass) : Prop :=
  c.Descends .timeoutException ∨ c.Descends .networkError ∨ ∃ n, c = .httpStatusError n

theorem retryable_iff {c : FailureClass} : c.retryable = true ↔ c.Retryable := by
  simp only [retryable, Bool.or_eq_true, isA_iff_descends, Option.isSome_iff_exists,
    status?_eq_some_iff, or_assoc, Retryable]

end FailureClass

end Courier.Service
