import Courier.Proofs.Service.Addressing
import Courier.Proofs.Service.Conservation
import Courier.Proofs.Service.Labels

/-! The labels of containers and objects, and which names show in them. Everything that an operation on
metadata measures is measured under the label of its place. -/

namespace Courier.Service

open Url
open Metadata (Mode Offered)

/-- The parts of an object's name, with the message ids left out. -/
def shownParts (container name : String) : List (List Char) :=
  (hideIds (container.toList :: name.toList.splitOn '/')).tail

section Places

variable {c m : List Char}

theorem collapseObject_below (hne : c ≠ []) (hc : '/' ∉ c) :
    collapseObject ('/' :: (c ++ '/' :: m)) =
      if (m.takeWhile (· ≠ '\n')).isEmpty then '/' :: (c ++ '/' :: m)
      else (endOfLine? (m.dropWhile (· ≠ '\n'))).elim ('/' :: (c ++ '/' :: m))
        ("/\x7bcontainer\x7d/\x7bobject\x7d".toList ++ ·) := by
  have hslash : ∀ d ∈ ('/' :: m).head?, d = '/' := by simp
  obtain ⟨htake, hdrop⟩ := span_slash hc hslash
  have hcontainer : c.isEmpty = false := by simpa using hne
  simp only [collapseObject, htake, hdrop, hcontainer, Bool.false_or, List.drop_one, List.tail_cons]
  cases endOfLine? (m.dropWhile (· ≠ '\n')) with
  | none => rfl
  | some tail => rfl

theorem collapseObject_line (hne : c ≠ []) (hc : '/' ∉ c) (hm : m ≠ []) (h : '\n' ∉ m) :
    collapseObject ('/' :: (c ++ '/' :: m)) = "/\x7bcontainer\x7d/\x7bobject\x7d".toList := by
  obtain ⟨htake, hdrop⟩ := span_of_notMem h
  rw [collapseObject_below hne hc, htake, hdrop, if_neg (by simpa using hm)]
  rfl

theorem collapseContainer_keep {d : Char} {r : List Char} (hd : d = '/' ∨ d = '\x7b') (h : d ∈ r) :
    collapseContainer ('/' :: r) = '/' :: r := by
  rw [collapseContainer]
  refine if_neg fun hr => ?_
  have hall := List.all_eq_true.mp ((Bool.and_eq_true _ _).mp hr).2 d h
  rcases hd with rfl | rfl
  · cases hall
  · cases hall

theorem feed_mem_collapsePlace (hne : c ≠ []) (hc : '/' ∉ c) (h : '\n' ∈ m) :
    '\n' ∈ collapsePlace ('/' :: (c ++ '/' :: m)) := by
  have hself : '\n' ∈ collapseContainer ('/' :: (c ++ '/' :: m)) := by
    rw [collapseContainer_keep (.inl rfl) (by simp)]
    simp [h]
  rw [collapsePlace, collapseObject_below hne hc]
  split_ifs
  · exact hself
  · cases htail : endOfLine? (m.dropWhile (· ≠ '\n')) with
    | none => exact hself
    | some tail =>
      obtain ⟨hdrop, hend⟩ := endOfLine?_eq_some htail
      -- The line feed of the name is what is left of it behind its first line.
      have hne : tail ≠ [] := by
        rw [← hdrop]
        intro hnil
        simpa using List.dropWhile_eq_nil_iff.mp hnil _ h
      rw [hend.resolve_left hne, Option.elim_some]
      decide

theorem collapseObject_part (hc : '/' ∉ c) : collapseObject ('/' :: c) = '/' :: c := by
  have hspan := span_slash (r := []) hc (by simp)
  rw [List.append_nil] at hspan
  simp only [collapseObject, hspan.2]
  exact if_pos (Bool.or_true _)

theorem collapseContainer_part (hne : c ≠ []) (hc : '/' ∉ c) :
    collapseContainer ('/' :: c) =
      if '\x7b' ∈ c then '/' :: c else "/\x7bcontainer\x7d".toList := by
  by_cases hb : '\x7b' ∈ c
  · rw [if_pos hb, collapseContainer_keep (.inr rfl) hb]
  · rw [if_neg hb, collapseContainer]
    have hall : c.all (fun d => !(d == '/' || d == '\x7b')) = true := by
      rw [List.all_eq_true]
      intro d hd
      have hslash : d ≠ '/' := fun he => hc (he ▸ hd)
      have hbrace : d ≠ '\x7b' := fun he => hb (he ▸ hd)
      simp [hslash, hbrace]
    have hsome : c.isEmpty = false := by simpa using hne
    simp only [hall, hsome, Bool.not_false, Bool.and_self, if_true]

theorem queues_iff (c : List Char) (ps : List (List Char)) :
    "/queues".toList <+: slashed (c :: ps) ↔ "queues".toList <+: c := by
  have hqueues : "/queues".toList = '/' :: "queues".toList := rfl
  rw [hqueues, slashed_cons, List.cons_prefix_cons, prefix_part_iff (by decide)]
  simp only [true_and]

/-- A place whose container begins with `queues` is labelled as a queue's, with that container. -/
theorem normalizeChars_like_queue {ps : List (List Char)} (h : SlashFree (c :: ps))
    (hq : "queues".toList <+: c) : "/queues".toList <+: normalizeChars (slashed (c :: ps)) := by
  obtain ⟨qs, hqs⟩ := collapseNames_first h
  have hstarts : "/queues".toList <+: collapseNames (slashed (c :: ps)) := by
    rw [hqs]
    exact (queues_iff c qs).mpr hq
  rwa [normalizeChars_queues hstarts]

theorem container_label_iff (hne : c ≠ []) (hc : '/' ∉ c) :
    normalizeChars ('/' :: c) = "/\x7bcontainer\x7d".toList ↔
      ¬ "queues".toList <+: c ∧ ('\x7b' ∉ c ∨ c = "\x7bcontainer\x7d".toList) := by
  have hparts : SlashFree [c] := by simpa [SlashFree] using hc
  have hchars : '/' :: c = slashed [c] := by simp
  by_cases hq : "queues".toList <+: c
  · have hlabel := normalizeChars_like_queue hparts hq
    rw [hchars]
    constructor
    · intro he
      rw [he] at hlabel
      exact absurd hlabel (by decide)
    · exact fun h => (h.1 hq).elim
  · have hnames : collapseNames (slashed [c]) = '/' :: c := by
      rw [collapseNames_slashed hparts, hchars]
      rfl
    have hother : ¬ "/queues".toList <+: collapseNames (slashed [c]) := by
      rwa [hnames, hchars, queues_iff]
    rw [hchars, normalizeChars_other hother, hnames, collapsePlace, collapseObject_part hc,
      collapseContainer_part hne hc]
    by_cases hb : '\x7b' ∈ c
    · have hlabel : "/\x7bcontainer\x7d".toList = '/' :: "\x7bcontainer\x7d".toList := rfl
      rw [if_pos hb, if_neg (by simp), hlabel, List.cons.injEq]
      exact ⟨fun h => ⟨hq, .inr h.2⟩, fun h => ⟨rfl, h.2.resolve_left (not_not_intro hb)⟩⟩
    · rw [if_neg hb, if_neg (by decide)]
      exact ⟨fun _ => ⟨hq, .inl hb⟩, fun _ => rfl⟩

theorem object_label_iff {n : List Char} {ns : List (List Char)} (hne : c ≠ []) (hc : '/' ∉ c)
    (hn : n ++ slashed ns ≠ []) (hns : SlashFree (n :: ns)) :
    normalizeChars (slashed (c :: n :: ns)) = "/\x7bcontainer\x7d/\x7bobject\x7d".toList ↔
      ¬ "queues".toList <+: c ∧ ∀ part ∈ (hideIds (c :: n :: ns)).tail, '\n' ∉ part := by
  have hparts : SlashFree (c :: n :: ns) := slashFree_cons.mpr ⟨hc, hns⟩
  by_cases hq : "queues".toList <+: c
  · have hlabel := normalizeChars_like_queue hparts hq
    constructor
    · intro he
      rw [he] at hlabel
      exact absurd hlabel (by decide)
    · exact fun h => (h.1 hq).elim
  · obtain ⟨q, qs, hqs, hm⟩ := hideIds_below c n ns
    have hqueues : ¬ (c = "queues".toList ∧ n ≠ []) := fun h => hq (h.1 ▸ List.prefix_rfl)
    have hnames : collapseNames (slashed (c :: n :: ns)) = slashed (c :: q :: qs) := by
      rw [collapseNames_slashed hparts, hideQueue, if_neg hqueues, hqs]
    have hother : ¬ "/queues".toList <+: collapseNames (slashed (c :: n :: ns)) := by
      rwa [hnames, queues_iff]
    have hfeed : (∀ part ∈ q :: qs, '\n' ∉ part) ↔ '\n' ∉ q ++ slashed qs := by
      rw [List.mem_append, mem_slashed (by decide)]
      simp
    rw [normalizeChars_other hother, hnames, hqs, List.tail_cons, hfeed, slashed_cons, slashed_cons]
    by_cases hf : '\n' ∈ q ++ slashed qs
    · have hlabel := feed_mem_collapsePlace hne hc hf
      rw [if_neg (by simpa using List.ne_nil_of_mem hlabel)]
      constructor
      · intro he
        rw [he] at hlabel
        exact absurd hlabel (by decide)
      · exact fun h => (h.2 hf).elim
    · have hline := collapseObject_line hne hc (hm hn) hf
      have hlabel : collapseContainer "/\x7bcontainer\x7d/\x7bobject\x7d".toList =
          "/\x7bcontainer\x7d/\x7bobject\x7d".toList := by decide
      rw [collapsePlace, hline, hlabel, if_neg (by decide)]
      exact ⟨fun _ => ⟨hq, hf⟩, fun _ => rfl⟩

end Places

theorem normalizeEndpoint_eq_iff {e label : String} :
    normalizeEndpoint e = label ↔ normalizeChars e.toList = label.toList := by
  rw [← String.toList_inj, normalizeEndpoint, String.toList_ofList]

/-- From one state of the metrics to another, one request is measured under a label, and retries of it. -/
def MeasuredUnder (l : Label) (m m' : Metrics) : Prop :=
  ∃ (status : String) (seconds : Double) (causes : List String),
    m' = { requests := m.requests ++ [⟨l, status, seconds⟩]
           retries := m.retries ++ causes.map (Retry.mk l) }

theorem send_measuredUnder (c : Client) (r : HttpRequest) (script : Script) {s : State}
    (h : s.breaker.isOpen = false) :
    MeasuredUnder (c.label r.method r.endpoint) s.metrics (c.send r script s).state.metrics := by
  obtain ⟨n, e, status, -, -, hm, -⟩ := send_measured c r script h
  refine ⟨status, (c.send r script s).state.clock.sub s.clock,
    (List.range n).map fun i => (script i).outcome.cause, ?_⟩
  rw [hm, List.map_map]
  rfl

theorem postMetadata_measured (baseUrl : String) (config : Config) (p : Place) (mode : Mode)
    (entries : List (String × String)) (script : Script) {s : State}
    (h : s.breaker.isOpen = false) :
    MeasuredUnder ⟨"object_storage", "POST", normalizeEndpoint p.endpoint⟩ s.metrics
      ((Client.storage baseUrl config).postMetadata p mode (.ofTexts entries) script
        s).state.metrics := by
  rw [postMetadata_texts]
  exact send_measuredUnder (Client.storage baseUrl config) (p.request mode entries) script h

/-- What is not let through, or is no mapping of text to text, is not measured. -/
theorem postMetadata_unmeasured (c : Client) (p : Place) (mode : Mode) (m : Offered)
    (script : Script) {s : State}
    (h : s.breaker.isOpen = true ∨ ∀ entries, m ≠ .ofTexts entries) :
    (c.postMetadata p mode m script s).state.metrics = s.metrics := by
  by_cases hm : ∃ entries, m = .ofTexts entries
  · obtain ⟨entries, rfl⟩ := hm
    have hopen := h.resolve_right fun hne => hne entries rfl
    rw [postMetadata_texts, send_blocked hopen]
  · obtain ⟨f, hf⟩ := postMetadata_refused c p mode script s fun entries he => hm ⟨entries, he⟩
    rw [hf]

/-- A container is labelled as one exactly if its name does not begin with `queues` and holds no
opening brace (or is the placeholder itself). An object is labelled as one exactly if its container's
name does not begin so, and each line feed of its name is left out with a message id. What an operation
on metadata measures, it measures under the label of its place. -/
theorem storage_labels_iff (container name : String) (hc : IsPart container) (hn : name ≠ "") :
    (normalizeEndpoint ("/" ++ container) = "/\x7bcontainer\x7d" ↔
      ¬ "queues".toList <+: container.toList ∧
        ('\x7b' ∉ container.toList ∨ container = "\x7bcontainer\x7d")) ∧
    (normalizeEndpoint ("/" ++ container ++ "/" ++ name) = "/\x7bcontainer\x7d/\x7bobject\x7d" ↔
      ¬ "queues".toList <+: container.toList ∧ ∀ part ∈ shownParts container name, '\n' ∉ part) ∧
    ∀ (baseUrl : String) (config : Config) (p : Place) (mode : Mode) (script : Script) (s : State),
      (∀ entries : List (String × String), s.breaker.isOpen = false →
        MeasuredUnder ⟨"object_storage", "POST", normalizeEndpoint p.endpoint⟩ s.metrics
          ((Client.storage baseUrl config).postMetadata p mode (.ofTexts entries) script
            s).state.metrics) ∧
      ∀ m : Offered, s.breaker.isOpen = true ∨ (∀ entries, m ≠ .ofTexts entries) →
        ((Client.storage baseUrl config).postMetadata p mode m script s).state.metrics =
          s.metrics := by
  have hne : container.toList ≠ [] := by simpa using hc.1
  refine ⟨?_, ?_, fun baseUrl config p mode script s => ⟨?_, ?_⟩⟩
  · have hchars : ("/" ++ container).toList = '/' :: container.toList := by simp
    rw [normalizeEndpoint_eq_iff, hchars, container_label_iff hne hc.2, String.toList_inj]
  · obtain ⟨n, ns, hparts, hname, hslash⟩ := exists_parts name.toList
    have hchars : ("/" ++ container ++ "/" ++ name).toList =
        slashed (container.toList :: n :: ns) := by simp [hname]
    have hsome : n ++ slashed ns ≠ [] := by
      rw [← hname]
      simpa using hn
    rw [normalizeEndpoint_eq_iff, hchars,
      object_label_iff hne hc.2 hsome (slashFree_cons.mpr hslash), shownParts, hparts]
  · intro entries h
    exact postMetadata_measured baseUrl config p mode entries script h
  · intro m h
    exact postMetadata_unmeasured (Client.storage baseUrl config) p mode m script h

open Sample in
/-- A line feed in a message id does not show. -/
theorem storage_labels_id :
    IsPart "messages" ∧ "a\nb/c" ≠ "" ∧
    normalizeEndpoint "/messages" = "/\x7bcontainer\x7d" ∧
    normalizeEndpoint "/messages/a\nb/c" = "/\x7bcontainer\x7d/\x7bobject\x7d" ∧
    (Client.storage "http://h").start.breaker.isOpen = false ∧
    MeasuredUnder ⟨"object_storage", "POST", "/\x7bcontainer\x7d/\x7bobject\x7d"⟩ {}
      (setOne "messages" "a\nb/c").state.metrics := by
  have hc : IsPart "messages" := by decide
  have hn : "a\nb/c" ≠ "" := by decide
  have hclear : (Client.storage "http://h").start.breaker.isOpen = false := by decide +kernel
  obtain ⟨hcontainer, hobject, hmeasured⟩ := storage_labels_iff "messages" "a\nb/c" hc hn
  have hlabel := hobject.mpr (by decide +kernel)
  have hone := (hmeasured "http://h" {} (.object "messages" "a\nb/c") .set
    (always (.response { status := 200 })) (Client.storage "http://h").start).1 [("k", "v")] hclear
  have hplace : (Place.object "messages" "a\nb/c").endpoint =
      "/" ++ "messages" ++ "/" ++ "a\nb/c" := rfl
  rw [hplace, hlabel] at hone
  exact ⟨hc, hn, hcontainer.mpr (by decide +kernel), hlabel, hclear, hone⟩

open Sample in
/-- A container that begins with `queues` or holds a brace, and a line feed in an object's name, show
in the labels. -/
theorem storage_labels_leak :
    IsPart "queues-archive" ∧ IsPart "a\x7bb" ∧ IsPart "c" ∧
    normalizeEndpoint ("/" ++ "queues-archive") = "/queues-archive" ∧
    normalizeEndpoint ("/" ++ "a\x7bb") = "/a\x7bb" ∧
    "/queues-archive" ≠ "/\x7bcontainer\x7d" ∧ "/a\x7bb" ≠ "/\x7bcontainer\x7d" ∧
    normalizeEndpoint ("/" ++ "c" ++ "/" ++ "a\nb") = "/c/a\nb" ∧
    "/c/a\nb" ≠ "/\x7bcontainer\x7d/\x7bobject\x7d" ∧
    (setOne "queues-archive" "b").state.metrics.requests.map (·.label) =
      [⟨"object_storage", "POST", "/queues-archive/b"⟩] := by
  refine ⟨?_, ?_, ?_, ?_, ?_, ?_, ?_, ?_, ?_, ?_⟩ <;> decide +kernel

end Courier.Service
