import Courier.Proofs.Service.Labels

/-! The labels of a queue's endpoints: no name of a queue and no id of a message shows in them. -/

namespace Courier.Service

open Url

/-- A text that can be a message id in a path. -/
def IsId (s : String) : Prop := IsPart s ∧ '?' ∉ s.toList

instance : DecidablePred IsId := fun s => inferInstanceAs (Decidable (IsPart s ∧ '?' ∉ s.toList))

section Queues

theorem normalizeEndpoint_queue {q rest : String} {ps : List (List Char)} (hq : IsPart q)
    (hrest : rest.toList = slashed ps) (hps : SlashFree ps) :
    normalizeEndpoint ("/queues/" ++ q ++ rest) =
      String.ofList ("/queues/\x7bname\x7d".toList ++ slashed (hideIds ps)) := by
  have hne : q.toList ≠ [] := by simpa using hq.1
  have hqueues : '/' ∉ "queues".toList := by decide
  have hparts : SlashFree ("queues".toList :: q.toList :: ps) :=
    slashFree_cons.mpr ⟨hqueues, slashFree_cons.mpr ⟨hq.2, hps⟩⟩
  have hchars : ("/queues/" ++ q ++ rest).toList = slashed ("queues".toList :: q.toList :: ps) := by
    rw [String.toList_append, String.toList_append, hrest, List.append_assoc]
    rfl
  have hnames : collapseNames (slashed ("queues".toList :: q.toList :: ps)) =
      "/queues/\x7bname\x7d".toList ++ slashed (hideIds ps) := by
    rw [collapseNames_slashed hparts, hideQueue, if_pos ⟨rfl, hne⟩,
      hideIds_cons_of_ne (by decide), hideIds_cons_of_ne (by decide)]
    rfl
  have hstarts : "/queues".toList <+: "/queues/\x7bname\x7d".toList ++ slashed (hideIds ps) :=
    List.IsPrefix.trans (by decide) (List.prefix_append "/queues/\x7bname\x7d".toList _)
  rw [normalizeEndpoint, hchars, normalizeChars_queues (by rwa [hnames]), hnames]

theorem hideIds_message {i p : List Char} {ps : List (List Char)} (hne : i ≠ [])
    (hi : ∀ c ∈ i, isIdChar c = true) (hp : ∀ c ∈ p.head?, isIdChar c = false) :
    hideIds ("messages".toList :: (i ++ p) :: ps) =
      "messages".toList :: ("\x7bid\x7d".toList ++ p) :: hideIds ps := by
  obtain ⟨htake, hdrop⟩ := span_boundary hi hp
  rw [hideIds, htake, hdrop, if_pos ⟨rfl, hne⟩]

theorem normalizeEndpoint_message {q i suffix : String} (hq : IsPart q) (hi : IsId i)
    (hsuffix : ∀ c ∈ suffix.toList.head?, c = '/' ∨ c = '?') :
    normalizeEndpoint ("/queues/" ++ q ++ "/messages/" ++ i ++ suffix) =
      "/queues/\x7bname\x7d/messages/\x7bid\x7d" ++ String.ofList (collapseIds 0 suffix.toList) := by
  obtain ⟨p, ps, -, hs, hp, hps⟩ := exists_parts suffix.toList
  have hne : i.toList ≠ [] := by simpa using hi.1.1
  have hid : ∀ c ∈ i.toList, isIdChar c = true := by
    intro c hc
    exact isIdChar_iff.mpr ⟨fun he => hi.1.2 (he ▸ hc), fun he => hi.2 (he ▸ hc)⟩
  have hend : ∀ c ∈ p.head?, isIdChar c = false := by
    intro c hc
    obtain ⟨r, rfl⟩ := List.head?_eq_some_iff.mp hc
    rcases hsuffix c (by simp [hs]) with rfl | rfl
    · rfl
    · rfl
  have hmessages : '/' ∉ "messages".toList := by decide
  have hfirst : '/' ∉ i.toList ++ p := by simp [hi.1.2, hp]
  have hparts : SlashFree ("messages".toList :: (i.toList ++ p) :: ps) :=
    slashFree_cons.mpr ⟨hmessages, slashFree_cons.mpr ⟨hfirst, hps⟩⟩
  have hrest : ("/messages/" ++ i ++ suffix).toList =
      slashed ("messages".toList :: (i.toList ++ p) :: ps) := by
    rw [String.toList_append, String.toList_append, hs, List.append_assoc, slashed_cons,
      slashed_cons, List.append_assoc]
    rfl
  have hsplit : "/queues/" ++ q ++ "/messages/" ++ i ++ suffix =
      "/queues/" ++ q ++ ("/messages/" ++ i ++ suffix) := by
    simp only [String.append_assoc]
  rw [hsplit, normalizeEndpoint_queue hq hrest hparts, hideIds_message hne hid hend, hs,
    collapseIds_part hp, collapseIds_slashed hps]
  apply String.toList_inj.mp
  simp only [String.toList_append, String.toList_ofList, slashed_cons, List.append_assoc]
  rfl

end Queues

/-- A queue's name and a message's id have no part in the label. -/
theorem queue_label_hides (q₁ q₂ : String) (h₁ : IsPart q₁) (h₂ : IsPart q₂) :
    (∀ rest : String, (∀ c ∈ rest.toList.head?, c = '/') →
      normalizeEndpoint ("/queues/" ++ q₁ ++ rest) =
        normalizeEndpoint ("/queues/" ++ q₂ ++ rest)) ∧
    (∀ i₁ i₂ suffix : String, IsId i₁ → IsId i₂ →
      (∀ c ∈ suffix.toList.head?, c = '/' ∨ c = '?') →
      normalizeEndpoint ("/queues/" ++ q₁ ++ "/messages/" ++ i₁ ++ suffix) =
        normalizeEndpoint ("/queues/" ++ q₂ ++ "/messages/" ++ i₂ ++ suffix)) ∧
    normalizeEndpoint ("/queues/" ++ q₁ ++ "/messages") = "/queues/\x7bname\x7d/messages" ∧
    ∀ i, IsId i → normalizeEndpoint ("/queues/" ++ q₁ ++ "/messages/" ++ i) =
      "/queues/\x7bname\x7d/messages/\x7bid\x7d" := by
  refine ⟨fun rest hrest => ?_, fun i₁ i₂ suffix hi₁ hi₂ hsuffix => ?_, ?_, fun i hi => ?_⟩
  · obtain ⟨ps, hs, hps⟩ := exists_slashed hrest
    rw [normalizeEndpoint_queue h₁ hs hps, normalizeEndpoint_queue h₂ hs hps]
  · rw [normalizeEndpoint_message h₁ hi₁ hsuffix, normalizeEndpoint_message h₂ hi₂ hsuffix]
  · have hs : "/messages".toList = slashed ["messages".toList] := rfl
    rw [normalizeEndpoint_queue h₁ hs (by decide)]
    decide
  · have hmessage : normalizeEndpoint ("/queues/" ++ q₁ ++ "/messages/" ++ i ++ "") = _ :=
      normalizeEndpoint_message h₁ hi (by simp)
    rw [String.append_empty] at hmessage
    rw [hmessage]
    decide

/-- Neither a queue nor an id by the name of `messages`, nor what stands behind them, is in the label. -/
theorem queue_label_hides_messages :
    IsPart "messages" ∧ IsPart "a?\n" ∧ IsId "messages" ∧ IsId "\n\x7b" ∧
    normalizeEndpoint ("/queues/" ++ "messages" ++ "/messages/messages/x") =
      normalizeEndpoint ("/queues/" ++ "a?\n" ++ "/messages/messages/x") ∧
    normalizeEndpoint ("/queues/" ++ "messages" ++ "/messages/" ++ "messages" ++ "?x/y") =
      normalizeEndpoint ("/queues/" ++ "a?\n" ++ "/messages/" ++ "\n\x7b" ++ "?x/y") := by
  have hmessages : IsPart "messages" := by decide
  have hmarks : IsPart "a?\n" := by decide
  have hid : IsId "messages" := by decide
  have hfeed : IsId "\n\x7b" := by decide
  obtain ⟨hrest, hsuffix, -, -⟩ := queue_label_hides "messages" "a?\n" hmessages hmarks
  exact ⟨hmessages, hmarks, hid, hfeed, hrest _ (by simp),
    hsuffix _ _ _ hid hfeed (by simp)⟩

end Courier.Service
