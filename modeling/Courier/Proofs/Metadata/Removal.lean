import Courier.Proofs.Metadata.Canonical

/-! Removing what was set. The binder that removes metadata names the headers of the binder that sets
it, one for one. The lead of a removal takes the place of a first character, and names stay apart all
the same, since the stem gives all of them the same one. -/

namespace Courier.Metadata

/-- What stands in place of the first character of a name that is to be removed. -/
def removalLead : List Char := "x-remove".toList

/-- The name under which a header is removed. -/
def removalName (name : String) : String := String.ofList (removalLead ++ name.toList.drop 1)

/-- The name of the header that a removal names: `x` in place of the lead. -/
def removedName (name : String) : String :=
  String.ofList ('x' :: name.toList.drop removalLead.length)

theorem removedName_removalName {name : String} (h : name.toList.head? = some 'x') :
    removedName (removalName name) = name := by
  rw [removedName, removalName, String.toList_ofList, List.drop_left, List.drop_one,
    List.cons_head?_tail h, String.ofList_toList]

theorem removalName_inj {name name' : String} {c : Char} (h : name.toList.head? = some c)
    (h' : name'.toList.head? = some c) : removalName name = removalName name' ↔ name = name' := by
  rw [removalName, removalName, String.ofList_inj, List.append_cancel_left_eq, List.drop_one,
    List.drop_one, ← String.toList_inj, ← List.cons_head?_tail h, ← List.cons_head?_tail h']
  simp

namespace Binder

variable {stem : String} {entries : List (String × String)}

theorem head?_headerKey {b : Binder} {c : Char} (hc : b.stem.head? = some c) (key : String) :
    (b.headerKey key).head? = some c := by
  obtain ⟨rest, hrest⟩ := List.head?_eq_some_iff.mp hc
  obtain ⟨more, hmore⟩ := stem_prefix_headerKey b key
  rw [← hmore, hrest, List.cons_append, List.head?_cons]

def settingName (stem key : String) : String := String.ofList ((ofStem stem).headerKey key)

theorem headers_set_names (entries : List (String × String)) :
    ((ofStem stem .set).headers entries).map (·.1) =
      (entries.map (·.1)).map (settingName stem) := by
  rw [headers, List.map_map, List.map_map]
  rfl

theorem headers_remove (entries : List (String × String)) :
    (ofStem stem .remove).headers entries =
      (entries.map (·.1)).map fun key => (removalName (settingName stem key), removalValue) := by
  rw [headers, List.map_map]
  apply List.map_congr_left
  intro e _
  simp only [Function.comp_apply, removalName, settingName, String.toList_ofList]
  rfl

theorem exists_head?_stem (h : stem ≠ "") : ∃ c, (ofStem stem).stem.head? = some c := by
  have hstem : (ofStem stem).stem ≠ [] := by
    intro hnil
    exact h (String.toList_eq_nil_iff.mp (lower_eq_nil_iff.mp hnil))
  exact ⟨_, List.head?_eq_some_head hstem⟩

theorem headers_remove_names (stem : String) (entries : List (String × String)) :
    ((ofStem stem .remove).headers entries).map (·.1) =
      (((ofStem stem .set).headers entries).map (·.1)).map removalName := by
  rw [headers_remove, headers_set_names]
  simp only [List.map_map]
  rfl

theorem head?_of_mem_headers {c : Char} (hc : (ofStem stem).stem.head? = some c) {name : String}
    (h : name ∈ ((ofStem stem .set).headers entries).map (·.1)) : name.toList.head? = some c := by
  rw [headers_set_names] at h
  obtain ⟨key, -, rfl⟩ := List.mem_map.mp h
  rw [settingName, String.toList_ofList]
  exact head?_headerKey hc key

end Binder

theorem map_getElem?_inj {α β : Type} {f : α → β} {l : List α}
    (h : ∀ a ∈ l, ∀ b ∈ l, f a = f b ↔ a = b) (i j : Nat) :
    (l.map f)[i]? = (l.map f)[j]? ↔ l[i]? = l[j]? := by
  rw [List.getElem?_map, List.getElem?_map]
  cases hi : l[i]? with
  | none => cases hj : l[j]? <;> simp
  | some a =>
    cases hj : l[j]? with
    | none => simp
    | some b => simpa using h a (List.mem_of_getElem? hi) b (List.mem_of_getElem? hj)

/-- The headers that remove metadata are under the names of those that set it, in their order, whatever
the values are. Two of them have one name exactly when the two headers have; and behind a stem that
begins with `x` the name of each header can be told from that of its removal. -/
theorem removal_targets {ε η : Type} (stem : String) (hstem : stem ≠ "") (r : HttpRequest ε η)
    (entries : List (String × String)) :
    let setter := Binder.ofStem stem .set
    let remover := Binder.ofStem stem .remove
    ∃ written removed : List Header,
      setter.bind (some r) (.ofTexts entries) =
        .ok (r.replaceHeaders written, setter.boundEntry entries.length) ∧
      (∀ others : List (String × String), others.map (·.1) = entries.map (·.1) →
        remover.bind (some r) (.ofTexts others) =
          .ok (r.replaceHeaders removed, remover.boundEntry others.length)) ∧
      removed.length = written.length ∧
      removed.map (·.1) = written.map (fun h => removalName h.1) ∧
      (∀ i j : Nat, (removed.map (·.1))[i]? = (removed.map (·.1))[j]? ↔
        (written.map (·.1))[i]? = (written.map (·.1))[j]?) ∧
      ((lower stem.toList).head? = some 'x' →
        written.map (·.1) = removed.map fun h => removedName h.1) := by
  intro setter remover
  have hremove : (remover.headers entries).map (·.1) =
      ((setter.headers entries).map (·.1)).map removalName :=
    Binder.headers_remove_names stem entries
  refine ⟨setter.headers entries, remover.headers entries, setter.bind_texts r entries,
    fun others hkeys => ?_, ?_, ?_, fun i j => ?_, fun hx => ?_⟩
  · rw [remover.bind_texts, Binder.headers_remove, hkeys, ← Binder.headers_remove]
  · rw [Binder.headers, Binder.headers, List.length_map, List.length_map]
  · rw [hremove, List.map_map]
    rfl
  · obtain ⟨c, hc⟩ := Binder.exists_head?_stem hstem
    rw [hremove]
    refine map_getElem?_inj (fun name hname name' hname' => ?_) i j
    exact removalName_inj (Binder.head?_of_mem_headers hc hname)
      (Binder.head?_of_mem_headers hc hname')
  · have hself : ∀ name ∈ (setter.headers entries).map (·.1),
        removedName (removalName name) = name :=
      fun name hname => removedName_removalName (Binder.head?_of_mem_headers hx hname)
    have hback : ((remover.headers entries).map (·.1)).map removedName =
        (setter.headers entries).map (·.1) := by
      rw [hremove, List.map_map]
      exact (List.map_congr_left hself).trans (List.map_id _)
    rw [← hback, List.map_map]
    rfl

theorem removal_targets_hue :
    let r : HttpRequest := { method := "POST", endpoint := "/c/n", more := () }
    "X-Object-Meta-" ≠ "" ∧ (lower "X-Object-Meta-".toList).head? = some 'x' ∧
    ∃ written removed : List Header,
      (Binder.ofStem "X-Object-Meta-" .set).bind (some r)
          (.ofTexts [("Hue", "red"), ("x-object-meta-HUE", "blue"), ("", "1")]) =
        .ok (r.replaceHeaders written, (Binder.ofStem "X-Object-Meta-" .set).boundEntry 3) ∧
      (Binder.ofStem "X-Object-Meta-" .remove).bind (some r)
          (.ofTexts [("Hue", ""), ("x-object-meta-HUE", ""), ("", "")]) =
        .ok (r.replaceHeaders removed, (Binder.ofStem "X-Object-Meta-" .remove).boundEntry 3) ∧
      removed.map (·.1) = written.map (fun h => removalName h.1) ∧
      written.map (·.1) = removed.map fun h => removedName h.1 := by
  intro r
  have hstem : "X-Object-Meta-" ≠ "" := by decide
  have hx : (lower "X-Object-Meta-".toList).head? = some 'x' := by decide +kernel
  obtain ⟨written, removed, hset, hremove, -, hnames, -, hback⟩ :=
    removal_targets "X-Object-Meta-" hstem r
      [("Hue", "red"), ("x-object-meta-HUE", "blue"), ("", "1")]
  exact ⟨hstem, hx, written, removed, hset, hremove _ rfl, hnames, hback hx⟩

/-- Without a stem, keys that differ in their first character are removed under one name. -/
example : (Binder.ofStem "" .remove).header ("hue", "") =
    (Binder.ofStem "" .remove).header ("due", "") := by
  decide +kernel

end Courier.Metadata
