import Courier.Proofs.Settings.Locality

/-! Changes to a single entry of a settings file. Where another text is read as an entry of the same
key in its place, or the entry is taken out, all other bindings stay. -/

namespace Courier.EnvFile

variable {key : String} {pre old new post s s' q t t' : List Char} {bs bs' : List Binding}

theorem allBindings_nil : allBindings [] = [] := rfl

/-- Lines that are read up to the text behind them bind the same in front of every text. -/
theorem Reads.same (h : Reads (q ++ t) bs t) (h' : Reads (q ++ t') bs' t') (ht : t ≠ [])
    (ht' : t' ≠ []) : bs = bs' := by
  have hend : Reads (q ++ []) bs [] := h.swap ht nofun
  have hend' : Reads (q ++ []) bs' [] := h'.swap ht' nofun
  have hall := hend.allBindings_eq.symm.trans hend'.allBindings_eq
  rw [allBindings_nil, List.append_nil, List.append_nil] at hall
  exact hall

/-- A text is read, behind a text and in front of another, as an entry of a key. -/
structure EntryAt (key : String) (pre text post : List Char) : Prop where
  reads : ∃ bs, Reads (pre ++ (text ++ post)) bs (text ++ post)
  entry : ∃ b : Binding, b.key = key ∧ nextLine (text ++ post) = some (some b, post)

/-- A text that is read as an entry of a key whatever stands behind it. -/
def IsEntry (key : String) (text : List Char) : Prop :=
  ∃ b : Binding, b.key = key ∧ ∀ x, nextLine (text ++ x) = some (some b, x)

/-- A change to one entry of a key: another one is read in its place, as is every entry whose
quotation marks all occur from the old one on, or nothing stands there. -/
inductive Edit (key : String) : List Char → List Char → Prop
  | replaced {pre old new post : List Char} (hold : EntryAt key pre old post)
    (hnew : EntryAt key pre new post) : Edit key (pre ++ (old ++ post)) (pre ++ (new ++ post))
  | rewritten {pre old new post : List Char} (hold : EntryAt key pre old post)
    (hnew : IsEntry key new) (hmarks : ∀ m, IsMark m → m ∈ new → m ∈ old ++ post) :
    Edit key (pre ++ (old ++ post)) (pre ++ (new ++ post))
  | removed {pre old post : List Char} (hold : EntryAt key pre old post) :
    Edit key (pre ++ (old ++ post)) (pre ++ post)

theorem EntryAt.ne_nil (h : EntryAt key pre old post) : old ++ post ≠ [] := by
  obtain ⟨b, -, hb⟩ := h.entry
  intro hnil
  rw [hnil] at hb
  cases hb

theorem EntryAt.rewrite (h : EntryAt key pre old post) (hnew : IsEntry key new)
    (hmarks : ∀ m, IsMark m → m ∈ new → m ∈ old ++ post) : EntryAt key pre new post := by
  obtain ⟨bs, hbs⟩ := h.reads
  obtain ⟨b, hkey, hb⟩ := hnew
  refine ⟨⟨bs, hbs.swap h.ne_nil fun m hm hmem => ?_⟩, b, hkey, hb post⟩
  rcases List.mem_append.mp hmem with hmem | hmem
  · exact hmarks m hm hmem
  · exact List.mem_append_right old hmem

theorem EntryAt.allBindings_eq (h : EntryAt key pre old post)
    (hbs : Reads (pre ++ (old ++ post)) bs (old ++ post)) :
    ∃ b : Binding, b.key = key ∧
      allBindings (pre ++ (old ++ post)) = bs ++ b :: allBindings post := by
  obtain ⟨b, hkey, hb⟩ := h.entry
  refine ⟨b, hkey, ?_⟩
  rw [hbs.allBindings_eq, EnvFile.allBindings_eq, hb]
  rfl

theorem Edit.filter (h : Edit key s s') {p : Binding → Bool} (hp : ∀ b, b.key = key → p b = false) :
    (allBindings s').filter p = (allBindings s).filter p := by
  have hpass (b : Binding) (bs : List Binding) (hb : b.key = key) :
      (b :: bs).filter p = bs.filter p := List.filter_cons_of_neg (by simp [hp b hb])
  have hswitch {pre old new post : List Char} (hold : EntryAt key pre old post)
      (hnew : EntryAt key pre new post) :
      (allBindings (pre ++ (new ++ post))).filter p =
        (allBindings (pre ++ (old ++ post))).filter p := by
    obtain ⟨bs, hbs⟩ := hold.reads
    obtain ⟨bs', hbs'⟩ := hnew.reads
    obtain rfl := hbs.same hbs' hold.ne_nil hnew.ne_nil
    obtain ⟨b, hb, hall⟩ := hold.allBindings_eq hbs
    obtain ⟨b', hb', hall'⟩ := hnew.allBindings_eq hbs'
    rw [hall, hall', List.filter_append, List.filter_append, hpass b _ hb, hpass b' _ hb']
  cases h with
  | replaced hold hnew => exact hswitch hold hnew
  | rewritten hold hnew hmarks => exact hswitch hold (hold.rewrite hnew hmarks)
  | @removed pre old post hold =>
    obtain ⟨bs, hbs⟩ := hold.reads
    obtain ⟨b, hb, hall⟩ := hold.allBindings_eq hbs
    have hrest : Reads (pre ++ post) bs post :=
      hbs.swap hold.ne_nil fun m _ hm => List.mem_append_right old hm
    rw [hall, hrest.allBindings_eq, List.filter_append, List.filter_append, hpass b _ hb]

section Plain

variable {value x : List Char}

/-- A key of a file written without quotation marks. -/
structure IsKey (key : String) : Prop where
  chars : ∀ c ∈ key.toList, isKeyChar c = true
  start : ∃ k ks, key.toList = k :: ks ∧ k ≠ '\''

theorem IsKey.takeWhile (hkey : IsKey key) (x : List Char) :
    (key.toList ++ '=' :: x).takeWhile isKeyChar = key.toList := by
  rw [List.takeWhile_append_of_pos hkey.chars]
  exact List.append_nil _

theorem IsKey.dropWhile (hkey : IsKey key) (x : List Char) :
    (key.toList ++ '=' :: x).dropWhile isKeyChar = '=' :: x :=
  List.dropWhile_append_of_pos hkey.chars

/-- Behind the word that may stand before a key comes white space, behind a key the equals sign. -/
theorem IsKey.skipExport (hkey : IsKey key) (x : List Char) :
    skipExport (key.toList ++ '=' :: x) = key.toList ++ '=' :: x := by
  have hdrop := hkey.dropWhile x
  generalize key.toList ++ '=' :: x = s at hdrop
  show (if ("export".toList.isPrefixOf s && ((s.drop 6).head?.map isGap).getD false) = true
    then _ else s) = s
  refine if_neg fun hword => ?_
  rw [Bool.and_eq_true, List.isPrefixOf_iff_prefix] at hword
  obtain ⟨⟨r, rfl⟩, hgap⟩ := hword
  have hchars : ∀ c ∈ "export".toList, isKeyChar c = true := List.all_eq_true.mp rfl
  rw [List.dropWhile_append_of_pos hchars] at hdrop
  cases r with
  | nil => cases hdrop
  | cons g r =>
    have hg : isGap g = true := hgap
    have hspacing : isSpacing g = true := (Bool.and_eq_true_iff.mp hg).1
    have hstop : isKeyChar g = false := by simp [isKeyChar, hspacing]
    rw [List.dropWhile_cons_of_neg (by simp [hstop])] at hdrop
    rw [(List.cons.inj hdrop).1] at hg
    cases hg

theorem IsKey.readKey (hkey : IsKey key) (x : List Char) :
    readKey (key.toList ++ '=' :: x) = .ok (some key, '=' :: x) := by
  have htake := hkey.takeWhile x
  have hdrop := hkey.dropWhile x
  obtain ⟨k, ks, hk, hquote⟩ := hkey.start
  have hcomment : k ≠ '#' := by
    rintro rfl
    have hfalse := hkey.chars '#' (hk ▸ List.mem_cons_self)
    cases hfalse
  rw [hk] at htake hdrop ⊢
  rw [List.cons_append] at htake hdrop ⊢
  have hname : String.ofList (k :: ks) = key := by rw [← hk, String.ofList_toList]
  rw [readKey_word hcomment hquote htake, hdrop, hname]

theorem readValue_plain (hbreak : ∀ c ∈ value, isBreak c = false) (hmark : ∀ c ∈ value, ¬ IsMark c)
    (x : List Char) : readValue (value ++ '\n' :: x) = .ok (unquotedValue value, '\n' :: x) := by
  have hall : ∀ c ∈ value, (!isBreak c) = true := fun c hc => by rw [hbreak c hc]; rfl
  have htake : (value ++ '\n' :: x).takeWhile (!isBreak ·) = value := by
    rw [List.takeWhile_append_of_pos hall]
    exact List.append_nil _
  have hdrop : (value ++ '\n' :: x).dropWhile (!isBreak ·) = '\n' :: x :=
    List.dropWhile_append_of_pos hall
  have hread (c : Char) (r : List Char) (hc : ¬ IsMark c) : readValue (c :: r) =
      .ok (unquotedValue ((c :: r).takeWhile (!isBreak ·)), (c :: r).dropWhile (!isBreak ·)) :=
    if_neg fun h => hc h.symm
  cases value with
  | nil => exact hread '\n' x (by simp [IsMark])
  | cons c r =>
    rw [List.cons_append] at htake hdrop ⊢
    rw [hread c _ (hmark c List.mem_cons_self), htake, hdrop]

/-- A key with an equals sign and a text without quotation marks, on a line of its own. -/
theorem isEntry_plain (hkey : IsKey key) (hbreak : ∀ c ∈ value, isBreak c = false)
    (hmark : ∀ c ∈ value, ¬ IsMark c) : IsEntry key (key.toList ++ '=' :: (value ++ ['\n'])) := by
  refine ⟨⟨key, some (unquotedValue (value.dropWhile isGap))⟩, rfl, fun x => ?_⟩
  have htext : key.toList ++ '=' :: (value ++ ['\n']) ++ x =
      key.toList ++ '=' :: (value ++ '\n' :: x) := by simp
  have hgap : (value ++ '\n' :: x).dropWhile isGap = value.dropWhile isGap ++ '\n' :: x := by
    rw [List.dropWhile_append]
    split
    · next hnil =>
      rw [List.isEmpty_iff.mp hnil]
      rfl
    · rfl
  have hsuffix := (List.dropWhile_suffix (l := value) isGap).subset
  have hvalue := readValue_plain (fun c hc => hbreak c (hsuffix hc))
    (fun c hc => hmark c (hsuffix hc)) x
  have hpair : readPair (key.toList ++ '=' :: (value ++ '\n' :: x)) =
      .ok ((some key, some (unquotedValue (value.dropWhile isGap))), '\n' :: x) := by
    have hequals : ('=' :: (value ++ '\n' :: x)).dropWhile isGap = '=' :: (value ++ '\n' :: x) :=
      rfl
    rw [readPair, hkey.skipExport, hkey.readKey]
    simp only [Except.bind]
    rw [pairWith, hequals, readAssignment, hgap, hvalue]
    rfl
  obtain ⟨k, ks, hk, -⟩ := hkey.start
  have hstart : isSpacing k = false := by
    have hchar := hkey.chars k (hk ▸ List.mem_cons_self)
    simp only [isKeyChar, Bool.not_eq_true', Bool.or_eq_false_iff] at hchar
    exact hchar.2
  rw [htext, nextLine_eq]
  rw [hk, List.cons_append] at hpair ⊢
  rw [List.dropWhile_cons_of_neg (by simp [hstart])]
  simp only [hpair]
  rfl

end Plain

end Courier.EnvFile
