import Courier.Shape.Model
import Mathlib.Data.List.Basic

/-! Outcomes of checks. The faults of a whole are those of its parts, in order and seen from the whole. A
check that finds no fault has a value. -/

namespace Courier.Checked

variable {α β : Type}

/-- An outcome that is not faulty without a fault. -/
def Sound (x : Checked α) : Prop := x ≠ .faulty []

theorem Sound.ok_iff {x : Checked α} (h : x.Sound) : (∃ a, x = .ok a) ↔ x.faults = [] := by
  cases x with
  | ok a => simp [faults]
  | faulty fs =>
    have hfs : fs ≠ [] := fun he => h (congrArg faulty he)
    simp [faults, hfs]

theorem eq_faulty {x : Checked α} (h : x.faults ≠ []) : x = .faulty x.faults := by
  cases x with
  | ok a => exact (h rfl).elim
  | faulty fs => rfl

section Parts

variable {x : Checked α}

theorem sound_ok (a : α) : (ok a).Sound := nofun

theorem sound_fault (k : FaultKind) : (fault k : Checked α).Sound := nofun

theorem Sound.map (h : x.Sound) (f : α → β) : (x.map f).Sound := by
  cases x with
  | ok a => exact sound_ok (f a)
  | faulty fs =>
    intro he
    cases he
    exact h rfl

theorem Sound.and {f : Checked (α → β)} (hf : f.Sound) (hx : x.Sound) : (f.and x).Sound := by
  cases f with
  | ok f =>
    cases x with
    | ok a => exact sound_ok (f a)
    | faulty gs => exact fun he => hx (congrArg faulty (faulty.inj he))
  | faulty fs =>
    have hfs : fs ≠ [] := fun he => hf (congrArg faulty he)
    cases x with
    | ok a => exact fun he => hfs (faulty.inj he)
    | faulty gs => exact fun he => hfs (List.append_eq_nil_iff.mp (faulty.inj he)).1

theorem Sound.bind {f : α → Checked β} (hx : x.Sound) (hf : ∀ a, (f a).Sound) :
    (x.bind f).Sound := by
  cases x with
  | ok a => exact hf a
  | faulty fs =>
    intro he
    cases he
    exact hx rfl

theorem Sound.under (h : x.Sound) (s : Step) : (x.under s).Sound := by
  cases x with
  | ok a => exact sound_ok a
  | faulty fs => exact fun he => h (congrArg faulty (List.map_eq_nil_iff.mp (faulty.inj he)))

theorem map_eq_ok {a : α} (h : x = .ok a) (f : α → β) : x.map f = .ok (f a) := by
  rw [h, map]

theorem and_eq_ok {f : Checked (α → β)} {g : α → β} {a : α} (hf : f = .ok g) (hx : x = .ok a) :
    f.and x = .ok (g a) := by
  rw [hf, hx, and]

theorem of_map_eq_ok {f : α → β} {b : β} (h : x.map f = .ok b) : ∃ a, x = .ok a ∧ b = f a := by
  cases x with
  | ok a =>
    cases h
    exact ⟨a, rfl, rfl⟩
  | faulty fs => cases h

theorem of_and_eq_ok {f : Checked (α → β)} {b : β} (h : f.and x = .ok b) :
    ∃ g a, f = .ok g ∧ x = .ok a ∧ b = g a := by
  cases f with
  | ok g =>
    cases x with
    | ok a =>
      cases h
      exact ⟨g, a, rfl, rfl, rfl⟩
    | faulty gs => cases h
  | faulty fs => cases x <;> cases h

theorem faults_map (x : Checked α) (f : α → β) : (x.map f).faults = x.faults := by
  cases x <;> rfl

theorem faults_and (f : Checked (α → β)) (x : Checked α) :
    (f.and x).faults = f.faults ++ x.faults := by
  cases f with
  | ok f => cases x <;> rfl
  | faulty fs =>
    cases x with
    | ok a => exact (List.append_nil fs).symm
    | faulty gs => rfl

theorem faults_under (s : Step) (x : Checked α) :
    (x.under s).faults = x.faults.map (Fault.under s) := by
  cases x <;> rfl

end Parts

section Lists

variable {check : Json → Checked α} {k : FaultKind}

theorem sound_each {check : α → Checked β} (h : ∀ a, (check a).Sound) (i : Nat) (as : List α) :
    (each check i as).Sound := by
  induction as generalizing i with
  | nil => exact sound_ok []
  | cons a as ih => exact (((h a).under (.index i)).map List.cons).and (ih (i + 1))

theorem faults_each (check : α → Checked β) (i : Nat) (as : List α) :
    (each check i as).faults =
      (as.zipIdx i).flatMap fun (a, j) => (check a).faults.map (Fault.under (.index j)) := by
  induction as generalizing i with
  | nil => rfl
  | cons a as ih =>
    rw [each, faults_and, faults_map, faults_under, ih, List.zipIdx_cons, List.flatMap_cons]

theorem sound_items (k : FaultKind) (v : Json) : (items k v).Sound := by
  cases v <;> nofun

theorem sound_entries (v : Json) : (entries v).Sound := by
  cases v <;> nofun

theorem sound_listOf (h : ∀ v, (check v).Sound) (k : FaultKind) (v : Json) :
    (listOf k check v).Sound :=
  (sound_items k v).bind (sound_each h 0)

theorem each_map {check : β → Checked α} {wire : α → β} (h : ∀ a, check (wire a) = .ok a) (i : Nat)
    (as : List α) : each check i (as.map wire) = .ok as := by
  induction as generalizing i with
  | nil => rfl
  | cons a as ih =>
    rw [List.map_cons, each, h, ih]
    rfl

/-- A list whose items are checked as they are is checked as it is. -/
theorem listOf_map {wire : α → Json} (h : ∀ a, check (wire a) = .ok a) (k : FaultKind)
    (as : List α) : listOf k check (.arr (as.map wire)) = .ok as :=
  each_map h 0 as

end Lists

section Fields

variable {es : Entries String Json} {name : String} {check : Json → Checked α}

theorem sound_required (h : ∀ v, (check v).Sound) (es : Entries String Json) (name : String) :
    (required es name check).Sound := by
  rw [required]
  apply Sound.under
  cases es.get? name with
  | none => exact sound_fault .missing
  | some v => exact h v

theorem sound_optional (h : ∀ v, (check v).Sound) (es : Entries String Json) (name : String)
    (absent : α) : (optional es name absent check).Sound := by
  rw [optional]
  cases es.get? name with
  | none => exact sound_ok absent
  | some v => exact (h v).under (.field name)

theorem required_eq_ok {v : Json} {a : α} (h : es.get? name = some v) (hc : check v = .ok a) :
    required es name check = .ok a := by
  simp only [required, h, hc, under]

theorem optional_eq_ok {v : Json} {a : α} (h : es.get? name = some v) (hc : check v = .ok a)
    (absent : α) : optional es name absent check = .ok a := by
  simp only [optional, h, hc, under]

end Fields

theorem text_eq_ok (s : String) : checkText (.str s) = .ok s := rfl

end Courier.Checked
