import Courier.Proofs.Service.Storage
import Courier.Proofs.Text.Parts
import Courier.Proofs.Url.Percent

/-! Which object the URL of a container and a name addresses. It is the one that they name exactly if
neither of them holds a question mark, a number sign, or an escape. -/

namespace Courier

namespace Url

/-- The text before the query and the fragment. -/
def beforeMarks (url : List Char) : List Char := url.takeWhile fun c => c != '?' && c != '#'

/-- What a URL addresses below a base. -/
def placeBelow (base url : List Char) : List Char := unescape ((beforeMarks url).drop base.length)

/-- A text that stands for itself in the path of a URL. -/
def Plain (s : List Char) : Prop := '?' ∉ s ∧ '#' ∉ s ∧ hasEscape s = false

instance (s : List Char) : Decidable (Plain s) :=
  inferInstanceAs (Decidable ('?' ∉ s ∧ '#' ∉ s ∧ hasEscape s = false))

theorem beforeMarks_eq_self_iff {s : List Char} : beforeMarks s = s ↔ '?' ∉ s ∧ '#' ∉ s := by
  rw [beforeMarks, List.takeWhile_eq_self_iff]
  constructor
  · intro h
    constructor <;> intro hm <;> simpa using h _ hm
  · rintro ⟨hq, hn⟩ c hc
    have h1 : c ≠ '?' := fun he => hq (he ▸ hc)
    have h2 : c ≠ '#' := fun he => hn (he ▸ hc)
    simp [h1, h2]

theorem placeBelow_append {base : List Char} (h : '?' ∉ base ∧ '#' ∉ base) (t : List Char) :
    placeBelow base (base ++ t) = unescape (beforeMarks t) := by
  have hbase : ∀ c ∈ base, (c != '?' && c != '#') = true :=
    List.takeWhile_eq_self_iff.mp (beforeMarks_eq_self_iff.mpr h)
  rw [placeBelow, beforeMarks, List.takeWhile_append_of_pos hbase, List.drop_left, beforeMarks]

/-- Whatever a mark or an escape takes away makes the text shorter. -/
theorem unescape_beforeMarks_eq_self_iff {s : List Char} :
    unescape (beforeMarks s) = s ↔ Plain s := by
  constructor
  · intro h
    have hlen := unescape_length (beforeMarks s)
    rw [h] at hlen
    have hle : s.length ≤ (beforeMarks s).length := by omega
    have hfull : beforeMarks s = s := (List.takeWhile_prefix _).eq_of_length_le hle
    have hmarks := beforeMarks_eq_self_iff.mp hfull
    rw [hfull] at h
    exact ⟨hmarks.1, hmarks.2, unescape_eq_self_iff.mp h⟩
  · rintro ⟨hq, hn, he⟩
    rw [beforeMarks_eq_self_iff.mpr ⟨hq, hn⟩, unescape_eq_self_iff.mpr he]

theorem plain_slash (s t : List Char) : Plain (s ++ '/' :: t) ↔ Plain s ∧ Plain t := by
  simp only [Plain, hasEscape_slash, List.mem_append, List.mem_cons, Bool.or_eq_false_iff]
  tauto

end Url

namespace Service

open Metadata (Mode Offered)

theorem not_mem_baseUrl {baseUrl : String} {config : Config} {x : Char}
    (h : x ∉ baseUrl.toList) : x ∉ (Client.storage baseUrl config).baseUrl.toList := by
  obtain ⟨n, hn, -⟩ := baseUrl_make baseUrl "object_storage" config []
  intro hx
  apply h
  rw [hn]
  exact List.mem_append_left _ hx

theorem toList_object_endpoint (base container name : String) :
    (base ++ (Place.object container name).endpoint).toList =
      base.toList ++ '/' :: (container.toList ++ '/' :: name.toList) := by
  simp [Place.endpoint]

theorem placeBelow_object {base : String} (h : '?' ∉ base.toList ∧ '#' ∉ base.toList)
    (container name : String) :
    Url.placeBelow base.toList (base ++ (Place.object container name).endpoint).toList =
        '/' :: (container.toList ++ '/' :: name.toList) ↔
      Url.Plain container.toList ∧ Url.Plain name.toList := by
  have hfront (s : List Char) : Url.Plain ('/' :: s) ↔ Url.Plain s := by
    have hnil : Url.Plain [] := ⟨List.not_mem_nil, List.not_mem_nil, rfl⟩
    have hs := Url.plain_slash [] s
    rw [List.nil_append] at hs
    rw [hs]
    exact and_iff_right hnil
  rw [toList_object_endpoint, Url.placeBelow_append h, Url.unescape_beforeMarks_eq_self_iff,
    hfront, Url.plain_slash]

/-- An operation on an object addresses that object exactly if its container and its name are plain.
Two objects with plain names are addressed at two places. -/
theorem object_addressed_iff_plain (baseUrl : String) (config : Config)
    (h : '?' ∉ baseUrl.toList ∧ '#' ∉ baseUrl.toList) :
    let c := Client.storage baseUrl config
    (∀ (container name : String) (mode : Mode) (m : Offered) (script : Script) (s : State),
      ∀ call ∈ (c.postMetadata (.object container name) mode m script s).events.filterMap
        Event.call?,
      call.url = c.baseUrl ++ "/" ++ container ++ "/" ++ name ∧
      (Url.placeBelow c.baseUrl.toList call.url.toList = ("/" ++ container ++ "/" ++ name).toList ↔
        Url.Plain container.toList ∧ Url.Plain name.toList)) ∧
    ∀ container name container' name' : String,
      Url.Plain container.toList → Url.Plain name.toList →
      Url.Plain container'.toList → Url.Plain name'.toList →
      '/' ∉ container.toList → '/' ∉ container'.toList →
      Url.placeBelow c.baseUrl.toList (c.baseUrl ++ (Place.object container name).endpoint).toList =
        Url.placeBelow c.baseUrl.toList
          (c.baseUrl ++ (Place.object container' name').endpoint).toList →
      container = container' ∧ name = name' := by
  intro c
  have hbase : '?' ∉ c.baseUrl.toList ∧ '#' ∉ c.baseUrl.toList :=
    ⟨not_mem_baseUrl h.1, not_mem_baseUrl h.2⟩
  constructor
  · intro container name mode m script s call hcall
    have hurl := postMetadata_url c (.object container name) mode script s m call hcall
    have hplace : ("/" ++ container ++ "/" ++ name).toList =
        '/' :: (container.toList ++ '/' :: name.toList) := by
      simp
    rw [hurl, hplace]
    refine ⟨?_, placeBelow_object hbase container name⟩
    simp [Place.endpoint, String.append_assoc]
  · intro container name container' name' hc hn hc' hn' hs hs' he
    rw [(placeBelow_object hbase container name).mpr ⟨hc, hn⟩,
      (placeBelow_object hbase container' name').mpr ⟨hc', hn'⟩] at he
    obtain ⟨hcontainer, hname⟩ := Url.slash_split hs hs' (List.cons.inj he).2
    exact ⟨String.toList_inj.mp hcontainer, String.toList_inj.mp hname⟩

namespace Sample

/-- Sets one entry of an object. -/
def setOne (container name : String) : Ended StorageError Bool :=
  (Client.storage "http://h").postMetadata (.object container name) .set (.ofTexts [("k", "v")])
    (always (.response { status := 200 })) (Client.storage "http://h").start

end Sample

open Sample in
/-- A percent sign that no escape follows is plain. -/
theorem object_addressed_percent :
    ('?' ∉ "http://h".toList ∧ '#' ∉ "http://h".toList) ∧
    (setOne "c" "50%").events.filterMap Event.call? ≠ [] ∧
    ∀ call ∈ (setOne "c" "50%").events.filterMap Event.call?,
      Url.placeBelow "http://h".toList call.url.toList = "/c/50%".toList := by
  have h : '?' ∉ "http://h".toList ∧ '#' ∉ "http://h".toList := by decide
  have hbase : (Client.storage "http://h").baseUrl = "http://h" := by decide +kernel
  have hplain : Url.Plain "c".toList ∧ Url.Plain "50%".toList := by decide
  have hadd := (object_addressed_iff_plain "http://h" {} h).1 "c" "50%" .set (.ofTexts [("k", "v")])
    (always (.response { status := 200 })) (Client.storage "http://h").start
  refine ⟨h, ?_, fun call hcall => ?_⟩
  · have hone : ((setOne "c" "50%").events.filterMap Event.call?).length = 1 := by decide +kernel
    exact List.ne_nil_of_length_pos (by omega)
  · have hplace := (hadd call hcall).2.mpr hplain
    rwa [hbase] at hplace

open Sample in
/-- A question mark in a name, or an escape, leads to another object. -/
theorem object_addressed_elsewhere :
    ((setOne "c" "a?b").events.filterMap Event.call?).map (·.url) = ["http://h/c/a?b"] ∧
    Url.placeBelow "http://h".toList "http://h/c/a?b".toList = "/c/a".toList ∧
    "/c/a".toList ≠ "/c/a?b".toList ∧
    ((setOne "c" "%61").events.filterMap Event.call?).map (·.url) = ["http://h/c/%61"] ∧
    Url.placeBelow "http://h".toList "http://h/c/%61".toList = "/c/a".toList ∧
    ((setOne "c" "a").events.filterMap Event.call?).map (·.url) = ["http://h/c/a"] ∧
    Url.placeBelow "http://h".toList "http://h/c/a".toList = "/c/a".toList := by
  refine ⟨?_, ?_, ?_, ?_, ?_, ?_, ?_⟩ <;> decide +kernel

end Service

end Courier
