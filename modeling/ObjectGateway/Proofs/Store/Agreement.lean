import ObjectGateway.Proofs.Store.Delimited
import ObjectGateway.Proofs.Store.Memory

/-!
# A store in memory lists like a provider

A store in memory finds what is below a start of keys by one walk through its map, and shows the
folders in order before the files in order.  A provider that holds the same objects sends their
children page by page.  `MemoryStore.list_agrees` says that both list the same entries in the same
order, and what they stand for.
-/

namespace ObjectGateway

/-! ## The order of keys -/

section Order

variable {start cs ds : List Char}

theorem not_lt_of_prefix (h : start <+: cs) : ¬cs < start := by
  induction start generalizing cs with
  | nil => exact List.not_lt_nil cs
  | cons c start ih =>
    obtain ⟨rest, rfl⟩ := h
    rw [List.cons_append, List.cons_lt_cons_iff, not_or, not_and]
    exact ⟨Char.lt_irrefl c, fun _ => ih (List.prefix_append start rest)⟩

/-- The texts that have a start in common lie together: a text between the start and one of them has
the start as well. -/
theorem prefix_of_between (hstart : ¬cs < start) (hbefore : cs < ds) (h : start <+: ds) :
    start <+: cs := by
  induction start generalizing cs ds with
  | nil => exact List.nil_prefix
  | cons c start ih =>
    obtain ⟨rest, rfl⟩ := h
    cases cs with
    | nil => exact absurd (List.nil_lt_cons c start) hstart
    | cons d cs =>
      rw [List.cons_lt_cons_iff, not_or, not_and] at hstart
      rw [List.cons_append, List.cons_lt_cons_iff] at hbefore
      obtain ⟨rfl, hcs⟩ := hbefore.resolve_left hstart.1
      exact List.cons_prefix_cons.2 ⟨rfl, ih (hstart.2 rfl) hcs (List.prefix_append start rest)⟩

theorem append_lt_append_iff {s a b : String} : s ++ a < s ++ b ↔ a < b := by
  rw [String.lt_iff, String.lt_iff, String.toList_append, String.toList_append]
  induction s.toList with
  | nil => rfl
  | cons c cs ih => simp [ih]

theorem ne_of_before {a b : String} (h : a < b) : a ≠ b := by
  rintro rfl
  exact String.lt_irrefl a h

/-- Lists in a strict order of texts are the same if they have the same members. -/
theorem eq_of_ordered {α : Type} {f : α → String} {as bs : List α}
    (has : as.Pairwise (f · < f ·)) (hbs : bs.Pairwise (f · < f ·)) (h : ∀ a, a ∈ as ↔ a ∈ bs) :
    as = bs := by
  have hne : ∀ {a b : α}, f a < f b → a ≠ b := fun hlt heq => ne_of_before hlt (congrArg f heq)
  have hperm : as.Perm bs := (List.perm_ext_iff_of_nodup (has.imp hne) (hbs.imp hne)).2 h
  refine hperm.eq_of_pairwise (fun a b _ _ hab hba => ?_) has hbs
  exact absurd (String.lt_trans hab hba) (String.lt_irrefl (f a))

end Order

/-! ## Children in order -/

section Children

variable {keyPrefix : String} {items : List Child}

theorem mem_folderKeys_iff {key : String} : key ∈ folderKeys items ↔ Child.folder key ∈ items := by
  rw [folderKeys, List.mem_filterMap]
  constructor
  · rintro ⟨c, hc, hkey⟩
    cases c with
    | folder k =>
      cases hkey
      exact hc
    | object o => cases hkey
  · exact fun h => ⟨_, h, rfl⟩

theorem mem_objectsOf_iff {o : ListedObject} : o ∈ objectsOf items ↔ Child.object o ∈ items := by
  rw [objectsOf, List.mem_filterMap]
  constructor
  · rintro ⟨c, hc, ho⟩
    cases c with
    | folder k => cases ho
    | object o' =>
      cases ho
      exact hc
  · exact fun h => ⟨_, h, rfl⟩

theorem folderKeys_ordered (h : items.Pairwise (·.key < ·.key)) :
    (folderKeys items).Pairwise (· < ·) := by
  refine h.filterMap Child.folder? fun c c' hlt k hk k' hk' => ?_
  cases c with
  | object o => cases hk
  | folder j =>
    cases c' with
    | object o => cases hk'
    | folder j' =>
      cases hk
      cases hk'
      exact hlt

theorem objectsOf_ordered (h : items.Pairwise (·.key < ·.key)) :
    (objectsOf items).Pairwise (·.key < ·.key) := by
  refine h.filterMap Child.object? fun c c' hlt o ho o' ho' => ?_
  cases c with
  | folder k => cases ho
  | object p =>
    cases c' with
    | folder k => cases ho'
    | object p' =>
      cases ho
      cases ho'
      exact hlt

theorem Descriptor.ofObject?_key {o : ListedObject} {d : Descriptor}
    (h : Descriptor.ofObject? keyPrefix o = some d) : d.kind = .file ∧ d.key = o.key := by
  unfold Descriptor.ofObject? at h
  dsimp only at h
  split at h
  · cases h
  · cases h
    exact ⟨rfl, rfl⟩

theorem files_ordered (h : items.Pairwise (·.key < ·.key)) :
    ((objectsOf items).filterMap (Descriptor.ofObject? keyPrefix)).Pairwise (·.key < ·.key) := by
  refine (objectsOf_ordered h).filterMap _ fun o o' hlt d hd d' hd' => ?_
  rw [(Descriptor.ofObject?_key hd).2, (Descriptor.ofObject?_key hd').2]
  exact hlt

theorem Walk.mem_entriesOf_iff {d : Descriptor} :
    d ∈ Walk.entriesOf keyPrefix items ↔
      (∃ k, Child.folder k ∈ items ∧ Descriptor.ofFolder keyPrefix k = d) ∨
        ∃ o, Child.object o ∈ items ∧ Descriptor.ofObject? keyPrefix o = some d := by
  rw [Walk.entriesOf, List.mem_append, List.mem_map, List.mem_filterMap]
  simp only [mem_folderKeys_iff, mem_objectsOf_iff]

theorem Descriptor.keys_ofFolder (keys : List String) :
    (keys.map (Descriptor.ofFolder keyPrefix)).map (·.key) = keys := by
  rw [List.map_map]
  exact List.map_id keys

theorem Walk.nodup_entriesOf (hsorted : items.Pairwise (·.key < ·.key)) :
    ((Walk.entriesOf keyPrefix items).map (·.key)).Nodup := by
  have hkeys : (items.map Child.key).Nodup := List.pairwise_map.2 (hsorted.imp ne_of_before)
  have hfolders : (folderKeys items).Nodup := (folderKeys_ordered hsorted).imp ne_of_before
  have hfiles : (((objectsOf items).filterMap (Descriptor.ofObject? keyPrefix)).map
      (·.key)).Nodup := List.pairwise_map.2 ((files_ordered hsorted).imp ne_of_before)
  rw [Walk.entriesOf, List.map_append, Descriptor.keys_ofFolder]
  refine List.nodup_append.2 ⟨hfolders, hfiles, fun k hk k' hk' => ?_⟩
  obtain ⟨d, hd, rfl⟩ := List.mem_map.1 hk'
  obtain ⟨o, ho, hentry⟩ := List.mem_filterMap.1 hd
  rw [(Descriptor.ofObject?_key hentry).2]
  intro heq
  cases List.inj_on_of_nodup_map hkeys (mem_folderKeys_iff.1 hk) (mem_objectsOf_iff.1 ho) heq

end Children

/-! ## What entries stand for -/

/-- An entry stands for the object with a key: it is the object itself, if no slash follows the
listed start, and else the folder of the first segment that follows. -/
inductive StandsFor (keyPrefix key : String) (d : Descriptor) : Prop
  | file (name : String) (hkey : key = keyPrefix ++ name) (hname : '/' ∉ name.toList)
      (hkind : d.kind = .file) (hfile : d.key = key)
  | folder (first rest : String) (hkey : key = keyPrefix ++ first ++ "/" ++ rest)
      (hfirst : '/' ∉ first.toList) (hkind : d.kind = .folder)
      (hfolder : d.key = keyPrefix ++ first ++ "/")

/-- The entries that stand for the same object have the same key. -/
theorem StandsFor.key_eq {keyPrefix key : String} {d d' : Descriptor}
    (h : StandsFor keyPrefix key d) (h' : StandsFor keyPrefix key d') : d.key = d'.key := by
  have hmixed : ∀ {name first rest : String},
      keyPrefix ++ name = keyPrefix ++ first ++ "/" ++ rest → '/' ∈ name.toList := by
    intro name first rest heq
    rw [String.append_assoc, String.append_assoc, String.append_right_inj] at heq
    simp [heq]
  cases h with
  | file name hkey hname hkind hfile =>
    cases h' with
    | file name' hkey' hname' hkind' hfile' => rw [hfile, hfile']
    | folder first rest hkey' hfirst hkind' hfolder =>
      exact absurd (hmixed (hkey.symm.trans hkey')) hname
  | folder first rest hkey hfirst hkind hfolder =>
    cases h' with
    | file name hkey' hname hkind' hfile => exact absurd (hmixed (hkey'.symm.trans hkey)) hname
    | folder first' rest' hkey' hfirst' hkind' hfolder' =>
      have hsame := hkey.symm.trans hkey'
      simp only [← String.toList_inj, String.toList_append, List.append_assoc,
        List.append_cancel_left_eq] at hsame
      have hcut : Text.splitOnce '/' (first.toList ++ '/' :: rest.toList) =
          some (first.toList, rest.toList) := Text.splitOnce_append hfirst
      have hcut' : Text.splitOnce '/' (first'.toList ++ '/' :: rest'.toList) =
          some (first'.toList, rest'.toList) := Text.splitOnce_append hfirst'
      obtain rfl : first = first' := by
        have heq := hcut.symm.trans ((congrArg (Text.splitOnce '/') hsame).trans hcut')
        exact String.toList_inj.1 (Prod.mk.inj (Option.some_inj.1 heq)).1
      rw [hfolder, hfolder']

/-- Entries represent the objects below a start of keys: each whose key is longer than the start by
exactly one entry, and no others.  The folders are in order. -/
structure Represents (keyPrefix : String) (keys : List String) (entries : List Descriptor) :
    Prop where
  one : ∀ key ∈ keys, ∀ rest, key = keyPrefix ++ rest → rest ≠ "" →
    ∃! d, d ∈ entries ∧ StandsFor keyPrefix key d
  all : ∀ d ∈ entries, ∃ key ∈ keys, StandsFor keyPrefix key d
  nodup : (entries.map (·.key)).Nodup
  folders : ((entries.filter fun d => d.kind = .folder).map (·.key)).Pairwise (· < ·)

namespace MemoryStore

variable {s : MemoryStore} {keyPrefix : String}

/-! ## The walk through a map -/

/-- What follows a start of keys in the key of an object, if it has the start. -/
def under? (keyPrefix : String) (p : String × Bytes) : Option (List Char × Bytes) :=
  (Text.stripStart? keyPrefix.toList p.1.toList).map (·, p.2)

theorem below_eq : s.below keyPrefix = s.objects.filterMap (under? keyPrefix) := rfl

theorem under?_eq_none_iff {p : String × Bytes} :
    under? keyPrefix p = none ↔ ¬keyPrefix.toList <+: p.1.toList := by
  rw [under?, Option.map_eq_none_iff, Text.stripStart?, ← List.isPrefixOf_iff_prefix]
  split
  · next h => simp [h]
  · next h => simp [h]

/-- The objects from the first of some pairs on, as long as the keys have a start. -/
def readBelow (keyPrefix : String) : TextMap Bytes → List (List Char × Bytes)
  | [] => []
  | p :: rest =>
    match under? keyPrefix p with
    | some found => found :: readBelow keyPrefix rest
    | none => []

/-- The objects below a start of keys, as a walk finds them that begins at the first key which does
not come before the start, and ends at the first that does not have it. -/
def walkBelow (s : MemoryStore) (keyPrefix : String) : List (List Char × Bytes) :=
  readBelow keyPrefix (s.objects.dropWhile fun p => decide (p.1 < keyPrefix))

/-- Behind a key that comes after the start and does not have it, no key has it. -/
theorem readBelow_eq {objects : TextMap Bytes} (hordered : objects.Ordered)
    (hstart : ∀ key ∈ objects.keys, ¬key < keyPrefix) :
    readBelow keyPrefix objects = objects.filterMap (under? keyPrefix) := by
  induction objects with
  | nil => rfl
  | cons p rest ih =>
    obtain ⟨hfirst, hrest⟩ := TextMap.ordered_cons_iff.1 hordered
    cases hunder : under? keyPrefix p with
    | some found =>
      rw [readBelow, hunder, List.filterMap_cons_some hunder,
        ih hrest fun k hk => hstart k (List.mem_cons_of_mem p.1 hk)]
    | none =>
      have hend : ∀ q ∈ rest, under? keyPrefix q = none := fun q hq => by
        have hnot : ¬p.1.toList < keyPrefix.toList :=
          String.lt_iff.not.1 (hstart p.1 List.mem_cons_self)
        have hlt : p.1.toList < q.1.toList := String.lt_iff.1 (hfirst q.1 (List.mem_map_of_mem hq))
        rw [under?_eq_none_iff] at hunder ⊢
        exact fun h => hunder (prefix_of_between hnot hlt h)
      rw [readBelow, hunder, List.filterMap_cons_none hunder, List.filterMap_eq_nil_iff.2 hend]

theorem readBelow_dropWhile {objects : TextMap Bytes} (hordered : objects.Ordered) :
    readBelow keyPrefix (objects.dropWhile fun p => decide (p.1 < keyPrefix)) =
      objects.filterMap (under? keyPrefix) := by
  induction objects with
  | nil => rfl
  | cons p rest ih =>
    obtain ⟨hfirst, hrest⟩ := TextMap.ordered_cons_iff.1 hordered
    by_cases hbefore : p.1 < keyPrefix
    · have hunder : under? keyPrefix p = none := under?_eq_none_iff.2 fun h =>
        not_lt_of_prefix h (String.lt_iff.1 hbefore)
      rw [List.dropWhile_cons, if_pos (decide_eq_true hbefore), ih hrest,
        List.filterMap_cons_none hunder]
    · rw [List.dropWhile_cons, if_neg (by simpa using hbefore)]
      refine readBelow_eq hordered fun key hkey hlt => ?_
      rcases List.mem_cons.1 hkey with rfl | hkey
      · exact hbefore hlt
      · exact hbefore (String.lt_trans (hfirst key hkey) hlt)

/-- A walk finds all objects below a start of keys. -/
theorem walkBelow_eq (hordered : s.objects.Ordered) :
    s.walkBelow keyPrefix = s.below keyPrefix := readBelow_dropWhile hordered

/-! ## The objects of a store, as a provider has them -/

/-- An object as a store in memory shows it. -/
def listed (s : MemoryStore) (key : String) (content : Bytes) : ListedObject :=
  match s.overrides.get? key with
  | some o => ⟨key, o.etag.getD etag, o.contentLength.getD content.length, o.lastModified⟩
  | none => ⟨key, etag, content.length, none⟩

@[simp] theorem listed_key (s : MemoryStore) (key : String) (content : Bytes) :
    (s.listed key content).key = key := by
  unfold listed
  split
  · rfl
  · rfl

theorem keys_listed (s : MemoryStore) :
    (s.objects.map fun p => s.listed p.1 p.2).map (·.key) = s.objects.keys := by
  rw [List.map_map]
  exact List.map_congr_left fun p _ => s.listed_key p.1 p.2

/-- The bucket of a provider that holds the objects of a store. -/
def bucket (s : MemoryStore) (hordered : s.objects.Ordered) : Bucket where
  objects := s.objects.map fun p => s.listed p.1 p.2
  nodup := by
    rw [keys_listed]
    exact hordered.nodup

variable {hordered : s.objects.Ordered} {items : List Child}

theorem mem_bucket_iff {o : ListedObject} :
    o ∈ (s.bucket hordered).objects ↔ ∃ p ∈ s.objects, s.listed p.1 p.2 = o := List.mem_map

/-! ## Folders -/

/-- The name of the folder that an object is listed in, by what follows the start of its key. -/
def folderName? (found : List Char × Bytes) : Option String :=
  (Text.splitOnce '/' found.1).map fun cut => String.ofList (cut.1 ++ ['/'])

/-- The names of the folders below a start of keys, in order. -/
def folderNames (s : MemoryStore) (keyPrefix : String) : List String :=
  (TextMap.ofList (((s.below keyPrefix).filterMap folderName?).map (·, ()))).keys

theorem folders_eq : s.folders keyPrefix =
    (s.folderNames keyPrefix).map fun name => ⟨.folder, keyPrefix ++ name, name, "", 0, none⟩ := rfl

theorem folderNames_ordered : (s.folderNames keyPrefix).Pairwise (· < ·) :=
  TextMap.ordered_nil.insertAll _

theorem shows_folder_iff {p : String × Bytes} {name : String} :
    Child.Shows keyPrefix (s.listed p.1 p.2) (.folder (keyPrefix ++ name)) ↔
      (under? keyPrefix p).bind folderName? = some name := by
  rw [Child.shows_iff, Child.of?, listed_key, under?]
  cases Text.stripStart? keyPrefix.toList p.1.toList with
  | none => simp
  | some rest =>
    simp only [Option.map_some, Option.bind_some, folderName?]
    cases Text.splitOnce '/' rest with
    | none => simp
    | some cut => simp [String.append_assoc, String.append_right_inj]

theorem mem_folderNames_iff {name : String} :
    name ∈ s.folderNames keyPrefix ↔
      ∃ o ∈ (s.bucket hordered).objects, Child.Shows keyPrefix o (.folder (keyPrefix ++ name)) := by
  have hkeys : name ∈ s.folderNames keyPrefix ↔
      name ∈ (s.below keyPrefix).filterMap folderName? := by
    rw [folderNames, TextMap.ofList, TextMap.mem_keys_insertAll_iff, List.map_map]
    simp [TextMap.keys]
  rw [hkeys, below_eq, List.filterMap_filterMap, List.mem_filterMap]
  simp only [mem_bucket_iff, ← shows_folder_iff (s := s)]
  constructor
  · rintro ⟨p, hp, hshows⟩
    exact ⟨_, ⟨p, hp, rfl⟩, hshows⟩
  · rintro ⟨o, ⟨p, hp, rfl⟩, hshows⟩
    exact ⟨p, hp, hshows⟩

/-- A store shows the folders that are among the children of its bucket. -/
theorem folders_of_children (hitems : (s.bucket hordered).Children keyPrefix items)
    (hsorted : items.Pairwise (·.key < ·.key)) :
    s.folders keyPrefix = (folderKeys items).map (Descriptor.ofFolder keyPrefix) := by
  have hkeys : folderKeys items = (s.folderNames keyPrefix).map (keyPrefix ++ ·) := by
    refine eq_of_ordered (f := id) (folderKeys_ordered hsorted) ?_ fun k => ?_
    · rw [List.pairwise_map]
      exact folderNames_ordered.imp append_lt_append_iff.2
    · rw [mem_folderKeys_iff, hitems.mem_iff, List.mem_map]
      constructor
      · rintro ⟨o, ho, hshows⟩
        obtain ⟨name, rfl⟩ : ∃ name, k = keyPrefix ++ name := hshows.key_eq
        exact ⟨name, mem_folderNames_iff.2 ⟨o, ho, hshows⟩, rfl⟩
      · rintro ⟨name, hname, rfl⟩
        exact mem_folderNames_iff.1 hname
  rw [hkeys, List.map_map, folders_eq]
  refine List.map_congr_left fun name _ => ?_
  simp [Descriptor.ofFolder]

/-! ## Files -/

/-- The entry of an object that is listed itself, by what follows the start of its key. -/
def file? (s : MemoryStore) (keyPrefix : String) (found : List Char × Bytes) : Option Descriptor :=
  if found.1.isEmpty || found.1.contains '/' then none
  else
    let name := String.ofList found.1
    let o := s.listed (keyPrefix ++ name) found.2
    some ⟨.file, o.key, name, o.etag, o.size, o.lastModified⟩

theorem files_eq : s.files keyPrefix = (s.below keyPrefix).filterMap (s.file? keyPrefix) := by
  refine List.filterMap_congr fun found _ => ?_
  unfold file? listed
  dsimp only
  by_cases hnone : (found.1.isEmpty || found.1.contains '/') = true
  · rw [if_pos hnone, if_pos hnone]
  · rw [if_neg hnone, if_neg hnone]
    cases s.overrides.get? (keyPrefix ++ String.ofList found.1) with
    | none => rfl
    | some o => rfl

/-- An object has the entry of a file if no slash follows the start of its key, and something else
does. -/
theorem file?_eq_some_iff {p : String × Bytes} {d : Descriptor} :
    (under? keyPrefix p).bind (s.file? keyPrefix) = some d ↔
      Child.Shows keyPrefix (s.listed p.1 p.2) (.object (s.listed p.1 p.2)) ∧
        Descriptor.ofObject? keyPrefix (s.listed p.1 p.2) = some d := by
  rw [Child.shows_iff, Child.of?, listed_key, under?]
  cases hstrip : Text.stripStart? keyPrefix.toList p.1.toList with
  | none => simp
  | some rest =>
    have hkey : p.1 = keyPrefix ++ String.ofList rest := by
      rw [← String.toList_inj, Text.stripStart?_eq_some_iff.1 hstrip, String.toList_append,
        String.toList_ofList]
    rw [Option.map_some, Option.map_some, Option.bind_some, Option.some_inj]
    by_cases hslash : '/' ∈ rest
    · obtain ⟨before, after, rfl, hbefore⟩ := List.eq_append_cons_of_mem hslash
      simp [file?, Text.splitOnce_append hbefore]
    · rw [Text.splitOnce_eq_none hslash]
      have hname : entryName keyPrefix (s.listed p.1 p.2).key = String.ofList rest := by
        rw [listed_key, hkey, entryName_append]
      simp only [file?, Descriptor.ofObject?, hname, ← hkey, true_and]
      by_cases hempty : rest = []
      · simp [hempty]
      · have hsome : (rest.isEmpty || rest.contains '/') = false := by simp [hempty, hslash]
        have hne : (String.ofList rest).isEmpty = false := by
          rw [String.isEmpty_eq_false_iff, Ne, ← String.toList_eq_nil_iff, String.toList_ofList]
          exact hempty
        rw [hsome, hne]

theorem file?_key {p : String × Bytes} {d : Descriptor}
    (h : (under? keyPrefix p).bind (s.file? keyPrefix) = some d) : d.key = p.1 := by
  rw [(Descriptor.ofObject?_key (file?_eq_some_iff.1 h).2).2, listed_key]

theorem shown_ordered (hordered : s.objects.Ordered) :
    (s.files keyPrefix).Pairwise (·.key < ·.key) := by
  have hobjects : s.objects.Pairwise (·.1 < ·.1) := List.pairwise_map.1 hordered
  rw [files_eq, below_eq, List.filterMap_filterMap]
  refine hobjects.filterMap _ fun p q hlt d hd d' hd' => ?_
  rw [file?_key hd, file?_key hd']
  exact hlt

/-- A store shows the files that are among the children of its bucket. -/
theorem files_of_children (hitems : (s.bucket hordered).Children keyPrefix items)
    (hsorted : items.Pairwise (·.key < ·.key)) :
    s.files keyPrefix = (objectsOf items).filterMap (Descriptor.ofObject? keyPrefix) := by
  refine eq_of_ordered (f := Descriptor.key) (shown_ordered hordered) (files_ordered hsorted)
    fun d => ?_
  rw [files_eq, below_eq, List.filterMap_filterMap, List.mem_filterMap, List.mem_filterMap]
  constructor
  · rintro ⟨p, hp, hd⟩
    obtain ⟨hshows, hentry⟩ := file?_eq_some_iff.1 hd
    refine ⟨_, mem_objectsOf_iff.2 ((hitems.mem_iff _).2 ⟨_, ?_, hshows⟩), hentry⟩
    exact mem_bucket_iff.2 ⟨p, hp, rfl⟩
  · rintro ⟨o, ho, hentry⟩
    obtain ⟨o', ho', hshows⟩ := (hitems.mem_iff _).1 (mem_objectsOf_iff.1 ho)
    obtain rfl : o = o' := by
      cases hshows
      rfl
    obtain ⟨p, hp, rfl⟩ := mem_bucket_iff.1 ho'
    exact ⟨p, hp, file?_eq_some_iff.2 ⟨hshows, hentry⟩⟩

/-- A store shows the entries of the children of its bucket. -/
theorem entries_of_children (hitems : (s.bucket hordered).Children keyPrefix items)
    (hsorted : items.Pairwise (·.key < ·.key)) :
    s.folders keyPrefix ++ s.files keyPrefix = Walk.entriesOf keyPrefix items := by
  rw [Walk.entriesOf, folders_of_children hitems hsorted, files_of_children hitems hsorted]

/-! ## What a store represents -/

theorem exists_standsFor (hitems : (s.bucket hordered).Children keyPrefix items) {rest : String}
    (hkey : keyPrefix ++ rest ∈ s.objects.keys) (hrest : rest ≠ "") :
    ∃ d ∈ Walk.entriesOf keyPrefix items, StandsFor keyPrefix (keyPrefix ++ rest) d := by
  obtain ⟨p, hp, hname⟩ := List.mem_map.1 hkey
  have ho : s.listed p.1 p.2 ∈ (s.bucket hordered).objects := mem_bucket_iff.2 ⟨p, hp, rfl⟩
  have hlisted : (s.listed p.1 p.2).key = keyPrefix ++ rest := (s.listed_key p.1 p.2).trans hname
  by_cases hslash : '/' ∈ rest.toList
  · obtain ⟨before, after, hcut, hbefore⟩ := List.eq_append_cons_of_mem hslash
    have hfirst : '/' ∉ (String.ofList before).toList := by rwa [String.toList_ofList]
    have hsplit : keyPrefix ++ rest =
        keyPrefix ++ String.ofList before ++ "/" ++ String.ofList after := by
      rw [← String.toList_inj]
      simp [hcut]
    have hshows := Child.Shows.folder _ _ (hlisted.trans hsplit) hfirst
    have hchild := (hitems.mem_iff _).2 ⟨_, ho, hshows⟩
    exact ⟨_, Walk.mem_entriesOf_iff.2 (.inl ⟨_, hchild, rfl⟩), .folder _ _ hsplit hfirst rfl rfl⟩
  · have hshows := Child.Shows.object rest hlisted hslash
    have hentry : Descriptor.ofObject? keyPrefix (s.listed p.1 p.2) =
        some ⟨.file, keyPrefix ++ rest, rest, (s.listed p.1 p.2).etag, (s.listed p.1 p.2).size,
          (s.listed p.1 p.2).lastModified⟩ := by
      simp only [Descriptor.ofObject?, hlisted, entryName_append,
        String.isEmpty_eq_false_iff.2 hrest, Bool.false_eq_true, if_false]
    have hchild := (hitems.mem_iff _).2 ⟨_, ho, hshows⟩
    exact ⟨_, Walk.mem_entriesOf_iff.2 (.inr ⟨_, hchild, hentry⟩), .file rest rfl hslash rfl rfl⟩

theorem standsFor_of_mem (hitems : (s.bucket hordered).Children keyPrefix items) {d : Descriptor}
    (hd : d ∈ Walk.entriesOf keyPrefix items) :
    ∃ key ∈ s.objects.keys, StandsFor keyPrefix key d := by
  have hkeys : ∀ o ∈ (s.bucket hordered).objects, o.key ∈ s.objects.keys := by
    intro o ho
    rw [← keys_listed]
    exact List.mem_map_of_mem ho
  rcases Walk.mem_entriesOf_iff.1 hd with ⟨k, hk, rfl⟩ | ⟨o, ho, hentry⟩
  · obtain ⟨o, ho, hshows⟩ := (hitems.mem_iff _).1 hk
    refine ⟨o.key, hkeys o ho, ?_⟩
    cases hshows with
    | folder name rest hkey hname => exact .folder name rest hkey hname rfl rfl
  · obtain ⟨o', ho', hshows⟩ := (hitems.mem_iff _).1 ho
    obtain ⟨hkind, hkey⟩ := Descriptor.ofObject?_key hentry
    cases hshows with
    | object name hname hslash => exact ⟨o.key, hkeys o ho', .file name hname hslash hkind hkey⟩

theorem represents_of_children (hitems : (s.bucket hordered).Children keyPrefix items)
    (hsorted : items.Pairwise (·.key < ·.key)) :
    Represents keyPrefix s.objects.keys (Walk.entriesOf keyPrefix items) where
  one := by
    rintro _ hkey rest rfl hrest
    obtain ⟨d, hd, hstands⟩ := exists_standsFor hitems hkey hrest
    refine ⟨d, ⟨hd, hstands⟩, ?_⟩
    rintro d' ⟨hd', hstands'⟩
    exact List.inj_on_of_nodup_map (Walk.nodup_entriesOf hsorted) hd' hd (hstands'.key_eq hstands)
  all := fun _ hd => standsFor_of_mem hitems hd
  nodup := Walk.nodup_entriesOf hsorted
  folders := by
    have hfolders : ∀ d ∈ (folderKeys items).map (Descriptor.ofFolder keyPrefix),
        decide (d.kind = .folder) = true := by
      intro d hd
      obtain ⟨k, -, rfl⟩ := List.mem_map.1 hd
      rfl
    have hfiles : ∀ d ∈ (objectsOf items).filterMap (Descriptor.ofObject? keyPrefix),
        ¬decide (d.kind = .folder) = true := by
      intro d hd
      obtain ⟨o, -, hentry⟩ := List.mem_filterMap.1 hd
      rw [(Descriptor.ofObject?_key hentry).1]
      decide
    rw [Walk.entriesOf, List.filter_append, List.filter_eq_self.2 hfolders,
      List.filter_eq_nil_iff.2 hfiles, List.append_nil, Descriptor.keys_ofFolder]
    exact folderKeys_ordered hsorted

/-! ## Agreement -/

theorem reply_list (hfailure : s.failures.get? keyPrefix = none)
    (hlate : s.lateFailures.get? (StoreCall.list keyPrefix).label = none) :
    (reply (.list keyPrefix) s).1 =
      .ok (s.folders keyPrefix ++ s.files keyPrefix, info keyPrefix) := by
  have hkey : TextMap.get? (StoreCall.list keyPrefix).key s.failures = none := hfailure
  simp only [reply, hkey, perform, hlate]
  rfl

/-- A store in memory on which a listing does not fail lists what a listing finds that goes through
the pages of a conformant source, if the source has the same objects in order and the budget covers
their children.  Every object below the listed start has one entry.  The store comes to the objects
by a walk that begins at the start and ends at the first key without it. -/
theorem list_agrees (hordered : s.objects.Ordered) (hfailure : s.failures.get? keyPrefix = none)
    (hlate : s.lateFailures.get? (StoreCall.list keyPrefix).label = none)
    (hitems : (s.bucket hordered).Children keyPrefix items)
    (hsorted : items.Pairwise (·.key < ·.key)) {σ : Type}
    (source : ConformantSource σ keyPrefix items) (state : σ) {cap : Int} (hcap : 1 ≤ cap)
    (hall : items.length ≤ cap) {limit : Nat} (hlimit : cap ≤ limit) :
    ∃ requests entries,
      Walk.collect source.fetch limit (Walk.start keyPrefix cap) state =
        (requests, .finished (.ok entries)) ∧
      (reply (.list keyPrefix) s).1 = .ok (entries, info keyPrefix) ∧
      Represents keyPrefix s.objects.keys entries ∧
      s.below keyPrefix = s.walkBelow keyPrefix := by
  obtain ⟨requests, hcollect, -⟩ := (Walk.at_start source hcap state).collect hlimit
  have hwhole : items.take cap.toNat = items := List.take_of_length_le (by omega)
  rw [hwhole] at hcollect
  refine ⟨requests, _, hcollect, ?_, represents_of_children hitems hsorted,
    (walkBelow_eq hordered).symm⟩
  rw [reply_list hfailure hlate, entries_of_children hitems hsorted]

/-- Three children, one on each page: the listed start itself, a folder with two objects, and an
object. -/
theorem list_agrees_docs :
    let s := ofObjects [("docs/", []), ("docs/a/1", [1]), ("docs/a/2", [2]), ("docs/b", [3, 4]),
      ("other", [])]
    let items : List Child := [.object ⟨"docs/", etag, 0, none⟩, .folder "docs/a/",
      .object ⟨"docs/b", etag, 2, none⟩]
    let entries : List Descriptor := [⟨.folder, "docs/a/", "a/", "", 0, none⟩,
      ⟨.file, "docs/b", "b", etag, 2, none⟩]
    ∃ hordered : s.objects.Ordered, (s.bucket hordered).Children "docs/" items ∧
      items.Pairwise (·.key < ·.key) ∧
      (∃ requests,
        Walk.collect (ConformantSource.ofSize "docs/" items 1 (Nat.le_refl 1)).fetch 3
          (Walk.start "docs/" 3) () = (requests, .finished (.ok entries))) ∧
      (reply (.list "docs/") s).1 = .ok (entries, info "docs/") ∧
      Represents "docs/" s.objects.keys entries := by
  intro s items entries
  have hordered : s.objects.Ordered := by
    unfold TextMap.Ordered
    decide +kernel
  have hchildren : (s.bucket hordered).childrenOf "docs/" = items := by
    show ((s.objects.map fun p => s.listed p.1 p.2).filterMap (Child.of? "docs/")).dedup = items
    decide +kernel
  have hitems : (s.bucket hordered).Children "docs/" items :=
    hchildren ▸ (s.bucket hordered).children_childrenOf "docs/"
  have hsorted : items.Pairwise (·.key < ·.key) := by decide +kernel
  have hfailure : s.failures.get? "docs/" = none := rfl
  have hlate : s.lateFailures.get? (StoreCall.list "docs/").label = none := rfl
  have hcap : (1 : Int) ≤ 3 ∧ (items.length : Int) ≤ 3 ∧ (3 : Int) ≤ (3 : Nat) := by decide
  obtain ⟨requests, found, hcollect, hreply, hrepresents, -⟩ :=
    list_agrees hordered hfailure hlate hitems hsorted (.ofSize "docs/" items 1 (Nat.le_refl 1)) ()
      hcap.1 hcap.2.1 hcap.2.2
  obtain rfl : s.folders "docs/" ++ s.files "docs/" = found := by
    rw [reply_list hfailure hlate] at hreply
    exact (Prod.mk.inj (Except.ok.inj hreply)).1
  have hentries : s.folders "docs/" ++ s.files "docs/" = entries := by decide +kernel
  rw [hentries] at hcollect hreply hrepresents
  exact ⟨hordered, hitems, hsorted, ⟨requests, hcollect⟩, hreply, hrepresents⟩

end MemoryStore

end ObjectGateway
