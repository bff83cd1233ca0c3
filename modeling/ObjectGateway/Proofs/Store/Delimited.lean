import Mathlib.Data.List.Dedup
import ObjectGateway.Proofs.Store.Listing
import ObjectGateway.Proofs.Text.Split

/-!
# Listings of delimited children

The children of a start of keys are the objects directly below it and, each once, the common starts
of keys up to the next slash.  A conformant source sends them page by page in an order of its own:
each page has the next few children, counts them, and has a token for the first child that has not
been sent, as long as there is one.

`Walk.collect_children` says that a listing of at most `cap` entries lists the first `cap` children
of any bucket through any conformant source, however it splits its pages.
-/

namespace ObjectGateway

/-- The objects of a bucket, one for each key. -/
structure Bucket where
  objects : List ListedObject
  nodup : (objects.map (·.key)).Nodup

/-- What is listed directly below a start of keys. -/
inductive Child
  | folder (key : String)
  | object (o : ListedObject)
  deriving Repr, DecidableEq

namespace Child

/-- The key of a child. -/
def key : Child → String
  | folder key => key
  | object o => o.key

/-- The key of a folder. -/
def folder? : Child → Option String
  | folder key => some key
  | object _ => none

/-- The object that is no folder. -/
def object? : Child → Option ListedObject
  | folder _ => none
  | object o => some o

/-- The child that an object is listed as: the object itself, if no slash follows the start of its
key, and else the folder up to the first slash that follows. -/
inductive Shows (keyPrefix : String) (o : ListedObject) : Child → Prop
  | object (name : String) (hkey : o.key = keyPrefix ++ name) (hname : '/' ∉ name.toList) :
    Shows keyPrefix o (.object o)
  | folder (name rest : String) (hkey : o.key = keyPrefix ++ name ++ "/" ++ rest)
      (hname : '/' ∉ name.toList) :
    Shows keyPrefix o (.folder (keyPrefix ++ name ++ "/"))

/-- The child that an object is listed as, if its key has the listed start. -/
def of? (keyPrefix : String) (o : ListedObject) : Option Child :=
  (Text.stripStart? keyPrefix.toList o.key.toList).map fun rest =>
    match Text.splitOnce '/' rest with
    | none => .object o
    | some (name, _) => .folder (keyPrefix ++ String.ofList name ++ "/")

theorem shows_iff {keyPrefix : String} {o : ListedObject} {c : Child} :
    Shows keyPrefix o c ↔ of? keyPrefix o = some c := by
  constructor
  · intro h
    cases h with
    | object name hkey hname =>
      have hstart : Text.stripStart? keyPrefix.toList o.key.toList = some name.toList :=
        Text.stripStart?_eq_some_iff.2 (by rw [hkey, String.toList_append])
      simp only [of?, hstart, Option.map_some, Text.splitOnce_eq_none hname]
    | folder name rest hkey hname =>
      have hstart : Text.stripStart? keyPrefix.toList o.key.toList =
          some (name.toList ++ '/' :: rest.toList) :=
        Text.stripStart?_eq_some_iff.2 (by rw [hkey]; simp)
      simp only [of?, hstart, Option.map_some, Text.splitOnce_append hname, String.ofList_toList]
  · intro h
    obtain ⟨rest, hrest, rfl⟩ := Option.map_eq_some_iff.1 h
    have hkey := Text.stripStart?_eq_some_iff.1 hrest
    cases hcut : Text.splitOnce '/' rest with
    | none =>
      refine .object (String.ofList rest) ?_ ?_
      · rw [← String.toList_inj, hkey, String.toList_append, String.toList_ofList]
      · rw [String.toList_ofList]
        intro hmem
        obtain ⟨before, after, rfl, hnot⟩ := List.eq_append_cons_of_mem hmem
        rw [Text.splitOnce_append hnot] at hcut
        cases hcut
    | some cut =>
      obtain ⟨rfl, hnot⟩ := Text.splitOnce_eq_some_iff.1 hcut
      refine .folder (String.ofList cut.1) (String.ofList cut.2) ?_ (by simpa using hnot)
      rw [← String.toList_inj, hkey]
      simp

end Child

/-- The keys of the folders among some children. -/
def folderKeys (items : List Child) : List String := items.filterMap Child.folder?

/-- The objects among some children. -/
def objectsOf (items : List Child) : List ListedObject := items.filterMap Child.object?

/-- The children of a start of keys, in any order, each once. -/
structure Bucket.Children (b : Bucket) (keyPrefix : String) (items : List Child) : Prop where
  nodup : items.Nodup
  mem_iff : ∀ c, c ∈ items ↔ ∃ o ∈ b.objects, Child.Shows keyPrefix o c

/-- The children of a start of keys in the order of the objects. -/
def Bucket.childrenOf (b : Bucket) (keyPrefix : String) : List Child :=
  (b.objects.filterMap (Child.of? keyPrefix)).dedup

theorem Bucket.children_childrenOf (b : Bucket) (keyPrefix : String) :
    b.Children keyPrefix (b.childrenOf keyPrefix) where
  nodup := List.nodup_dedup _
  mem_iff c := by
    rw [childrenOf, List.mem_dedup, List.mem_filterMap]
    simp only [Child.shows_iff]

/-- A page with some children. -/
def Child.page (items : List Child) (next : Option String) : ListPage :=
  ⟨folderKeys items, objectsOf items, items.length, next⟩

/-- Where a request starts: at the first child without a token, else at the one designated. -/
def StartsAt (designates : String → Nat → Prop) (token : Option String) (pos : Nat) : Prop :=
  match token with
  | none => pos = 0
  | some t => designates t pos

/-- A reply to a request that starts at `pos`: the next `n` children that are left, at least one if
there is one, and a token for the child after them exactly when there is one. -/
structure Sends {σ : Type} (items : List Child) (designates : σ → String → Nat → Prop)
    (r : PageRequest) (pos : Nat) (reply : Answer ListPage × σ) (n : Nat)
    (token : Option String) : Prop where
  page : reply.1 = .ok (Child.page ((items.drop pos).take n) token)
  fits : (n : Int) ≤ r.maxKeys
  available : n ≤ items.length - pos
  progress : n = 0 → items.length ≤ pos
  more : token.isSome ↔ pos + n < items.length
  designates : ∀ t ∈ token, designates reply.2 t (pos + n)

/-- A source that sends children page by page.  Which child a token designates may depend on the
state, so tokens need not mean the same for ever. -/
structure ConformantSource (σ : Type) (keyPrefix : String) (items : List Child) where
  fetch : PageSource σ
  designates : σ → String → Nat → Prop
  sends : ∀ s r pos, r.keyPrefix = keyPrefix → 1 ≤ r.maxKeys →
    StartsAt (designates s) r.token pos →
      ∃ n token, Sends items designates r pos (fetch r s) n token

/-- A conformant source with at most `size` children on a page, whose tokens are as long as the
place that they designate. -/
def ConformantSource.ofSize (keyPrefix : String) (items : List Child) (size : Nat)
    (hsize : 1 ≤ size) : ConformantSource Unit keyPrefix items where
  fetch r _ :=
    let pos := (r.token.map String.length).getD 0
    let n := min size (min r.maxKeys.toNat (items.length - pos))
    (.ok (Child.page ((items.drop pos).take n)
      (if pos + n < items.length then some (String.ofList (List.replicate (pos + n) '.'))
        else none)), ())
  designates _ t pos := t.length = pos
  sends s r pos hprefix hmax hstart := by
    have hpos : (r.token.map String.length).getD 0 = pos := by
      cases htoken : r.token with
      | none =>
        rw [htoken] at hstart
        exact hstart.symm
      | some t =>
        rw [htoken] at hstart
        exact hstart
    refine ⟨min size (min r.maxKeys.toNat (items.length - pos)), _, by rw [hpos], ?_, ?_, ?_, ?_,
      ?_⟩
    · omega
    · omega
    · intro hnone
      omega
    · split <;> simp [*]
    · intro t ht
      split at ht
      · cases ht
        simp
      · cases ht

/-! ## Keys of children -/

section Keys

variable {b : Bucket} {keyPrefix : String} {items : List Child}

theorem Child.Shows.key_eq {o : ListedObject} {c : Child} (h : Child.Shows keyPrefix o c) :
    ∃ name, c.key = keyPrefix ++ name := by
  cases h with
  | object name hkey hname => exact ⟨name, hkey⟩
  | folder name rest hkey hname => exact ⟨name ++ "/", by simp [Child.key, String.append_assoc]⟩

/-- The key of a folder is that of no object beside it, because a slash ends it. -/
theorem Child.Shows.folder_ne_object {o o' : ListedObject} {k : String}
    (hfolder : Child.Shows keyPrefix o (.folder k))
    (hobject : Child.Shows keyPrefix o' (.object o')) : k ≠ o'.key := by
  cases hfolder with
  | folder name rest hkey hname =>
    cases hobject with
    | object name' hkey' hname' =>
      intro heq
      rw [hkey', ← String.toList_inj] at heq
      simp only [String.toList_append, List.append_assoc, List.append_cancel_left_eq] at heq
      exact hname' (heq ▸ by simp)

/-- Different children have different keys. -/
theorem Bucket.Children.nodup_keys (h : b.Children keyPrefix items) :
    (items.map Child.key).Nodup := by
  refine h.nodup.map_on fun c hc c' hc' hkey => ?_
  obtain ⟨o, ho, hshows⟩ := (h.mem_iff c).1 hc
  obtain ⟨o', ho', hshows'⟩ := (h.mem_iff c').1 hc'
  cases c with
  | folder k =>
    cases c' with
    | folder k' => exact congrArg Child.folder hkey
    | object p' =>
      obtain rfl : p' = o' := by cases hshows'; rfl
      exact absurd hkey (hshows.folder_ne_object hshows')
  | object p =>
    obtain rfl : p = o := by cases hshows; rfl
    cases c' with
    | folder k' => exact absurd hkey.symm (hshows'.folder_ne_object hshows)
    | object p' =>
      obtain rfl : p' = o' := by cases hshows'; rfl
      exact congrArg Child.object (List.inj_on_of_nodup_map b.nodup ho ho' hkey)

end Keys

/-! ## Entries of children -/

/-- The entry of a folder: its name is its key without the listed start. -/
structure Descriptor.IsFolder (keyPrefix folder : String) (d : Descriptor) : Prop where
  kind : d.kind = .folder
  key : d.key = folder
  name : keyPrefix ++ d.name = folder
  etag : d.etag = ""
  size : d.size = 0
  lastModified : d.lastModified = none

/-- The entry of an object: its name is its key without the listed start. -/
structure Descriptor.IsFile (keyPrefix : String) (o : ListedObject) (d : Descriptor) : Prop where
  kind : d.kind = .file
  key : d.key = o.key
  name : keyPrefix ++ d.name = o.key
  etag : d.etag = o.etag
  size : d.size = o.size
  lastModified : d.lastModified = o.lastModified

@[simp] theorem entryName_append (keyPrefix name : String) :
    entryName keyPrefix (keyPrefix ++ name) = name := by
  have hprefix : keyPrefix.toList.isPrefixOf (keyPrefix.toList ++ name.toList) = true :=
    List.isPrefixOf_iff_prefix.2 (List.prefix_append _ _)
  simp [entryName, Text.stripStart?, hprefix]

@[simp] theorem entryName_self (keyPrefix : String) : entryName keyPrefix keyPrefix = "" := by
  simpa using entryName_append keyPrefix ""

theorem isFolder_ofFolder (keyPrefix name : String) :
    Descriptor.IsFolder keyPrefix (keyPrefix ++ name)
      (Descriptor.ofFolder keyPrefix (keyPrefix ++ name)) := by
  refine ⟨rfl, rfl, ?_, rfl, rfl, rfl⟩
  simp [Descriptor.ofFolder]

theorem forall₂_isFolder {keyPrefix : String} {keys : List String}
    (h : ∀ k ∈ keys, ∃ name, k = keyPrefix ++ name) :
    List.Forall₂ (Descriptor.IsFolder keyPrefix) keys
      (keys.map (Descriptor.ofFolder keyPrefix)) := by
  induction keys with
  | nil => exact .nil
  | cons k rest ih =>
    obtain ⟨name, rfl⟩ := h k List.mem_cons_self
    exact .cons (isFolder_ofFolder keyPrefix name)
      (ih fun k' hk' => h k' (List.mem_cons_of_mem _ hk'))

/-- The object that is the listed start itself is left out, and all others have an entry. -/
theorem forall₂_isFile {keyPrefix : String} {objects : List ListedObject}
    (h : ∀ o ∈ objects, ∃ name, o.key = keyPrefix ++ name) :
    List.Forall₂ (Descriptor.IsFile keyPrefix) (objects.filter fun o => o.key ≠ keyPrefix)
      (objects.filterMap (Descriptor.ofObject? keyPrefix)) := by
  induction objects with
  | nil => exact .nil
  | cons o rest ih =>
    obtain ⟨name, hkey⟩ := h o List.mem_cons_self
    have hrest := ih fun o' ho' => h o' (List.mem_cons_of_mem _ ho')
    by_cases hname : name = ""
    · subst hname
      rw [List.filter_cons_of_neg (by simp [hkey]), List.filterMap_cons_none]
      · exact hrest
      · simp [Descriptor.ofObject?, hkey]
    · have hne : o.key ≠ keyPrefix := by
        intro heq
        rw [hkey, ← String.toList_inj] at heq
        exact hname (by simpa using heq)
      rw [List.filter_cons_of_pos (by simpa using hne),
        List.filterMap_cons_some (b := ⟨.file, o.key, name, o.etag, o.size, o.lastModified⟩)]
      · exact .cons ⟨rfl, rfl, hkey.symm, rfl, rfl, rfl⟩ hrest
      · simp [Descriptor.ofObject?, hkey, hname]

/-! ## Walks through children -/

namespace Walk

variable {σ : Type} {w : Walk} {keyPrefix : String} {items : List Child} {cap : Int}

/-- The entries of some children: those of folders before those of files. -/
def entriesOf (keyPrefix : String) (items : List Child) : List Descriptor :=
  (folderKeys items).map (Descriptor.ofFolder keyPrefix) ++
    (objectsOf items).filterMap (Descriptor.ofObject? keyPrefix)

/-- A walk has taken over the first `pos` children and asks for the next ones. -/
structure At (source : ConformantSource σ keyPrefix items) (cap : Int) (pos : Nat) (w : Walk)
    (s : σ) : Prop where
  folders : w.folders = (folderKeys (items.take pos)).map (Descriptor.ofFolder keyPrefix)
  files : w.files = (objectsOf (items.take pos)).filterMap (Descriptor.ofObject? keyPrefix)
  keyPrefix : w.keyPrefix = keyPrefix
  pageSize : 1 ≤ w.pageSize
  remaining : w.remaining = cap - pos
  left : 1 ≤ w.remaining
  token : StartsAt (source.designates s) w.token pos

theorem at_start (source : ConformantSource σ keyPrefix items) (hcap : 1 ≤ cap) (s : σ) :
    At source cap 0 (start keyPrefix cap) s where
  folders := rfl
  files := rfl
  keyPrefix := rfl
  pageSize := by
    simp only [start]
    omega
  remaining := (Int.sub_zero cap).symm
  left := hcap
  token := rfl

namespace At

variable {source : ConformantSource σ keyPrefix items} {pos n : Nat} {s : σ}
  {token : Option String}

theorem maxKeys (h : At source cap pos w s) :
    1 ≤ w.request.maxKeys ∧ w.request.maxKeys ≤ cap - pos := by
  have hpageSize := h.pageSize
  have hleft := h.left
  have hremaining := h.remaining
  simp only [request]
  omega

/-- A page with the next children makes the walk have them as well. -/
theorem take_folders_files (h : At source cap pos w s) (n : Nat) (token : Option String) :
    (w.take (Child.page ((items.drop pos).take n) token)).folders =
        (folderKeys (items.take (pos + n))).map (Descriptor.ofFolder keyPrefix) ∧
      (w.take (Child.page ((items.drop pos).take n) token)).files =
        (objectsOf (items.take (pos + n))).filterMap (Descriptor.ofObject? keyPrefix) := by
  simp only [take, Child.page, h.keyPrefix, h.folders, h.files, List.take_add, folderKeys,
    objectsOf, List.filterMap_append, List.map_append, and_self]

theorem take_remaining (h : At source cap pos w s) (hn : n ≤ items.length - pos)
    (token : Option String) :
    (w.take (Child.page ((items.drop pos).take n) token)).remaining = cap - ↑(pos + n) := by
  have hlength : ((items.drop pos).take n).length = n := by
    rw [List.length_take, List.length_drop]
    omega
  simp only [take, Child.page, hlength, h.remaining]
  omega

/-- While children and budget are left, a page takes the walk to the children after it. -/
theorem next {reply : Answer ListPage × σ} (h : At source cap pos w s)
    (hsends : Sends items source.designates w.request pos reply n token)
    (hmore : pos + n < items.length) (hcap : (pos + n : Int) < cap) :
    ∃ next, w.receive reply.1 = .waiting next ∧ At source cap (pos + n) next reply.2 := by
  obtain ⟨t, rfl⟩ := Option.isSome_iff_exists.1 (hsends.more.2 hmore)
  have hprogress := hsends.progress
  have hremaining := h.remaining
  have hbudget := h.take_remaining hsends.available (some t)
  have hcounted : (w.take (Child.page ((items.drop pos).take n) (some t))).remaining =
    w.remaining - (Child.page ((items.drop pos).take n) (some t)).keyCount := rfl
  obtain ⟨hfolders, hfiles⟩ := h.take_folders_files n (some t)
  refine ⟨{ w.take (Child.page ((items.drop pos).take n) (some t)) with token := some t }, ?_, ?_⟩
  · refine receive_eq_waiting_iff.2 ⟨_, t, hsends.page, rfl, ?_, ?_, rfl⟩
    · omega
    · rintro ⟨hnone, -⟩
      omega
  · exact {
      folders := hfolders
      files := hfiles
      keyPrefix := h.keyPrefix
      pageSize := h.pageSize
      remaining := hbudget
      left := by
        show 1 ≤ (w.take _).remaining
        rw [hbudget]
        push_cast
        omega
      token := hsends.designates t rfl }

/-- When no children or no budget are left, the walk ends with the first `cap` children. -/
theorem last {reply : Answer ListPage × σ} (h : At source cap pos w s)
    (hsends : Sends items source.designates w.request pos reply n token)
    (hend : ¬(pos + n < items.length ∧ (pos + n : Int) < cap)) :
    w.receive reply.1 = .finished (.ok (entriesOf keyPrefix (items.take cap.toNat))) := by
  have hasked := h.maxKeys.2
  have hfits := hsends.fits
  have hbudget := h.take_remaining hsends.available token
  obtain ⟨hfolders, hfiles⟩ := h.take_folders_files n token
  have hall : items.take cap.toNat = items.take (pos + n) := by
    by_cases hmore : pos + n < items.length
    · rw [show cap.toNat = pos + n by omega]
    · rw [List.take_of_length_le (by omega), List.take_of_length_le (by omega)]
  have hentries : (w.take (Child.page ((items.drop pos).take n) token)).entries =
      entriesOf keyPrefix (items.take cap.toNat) := by
    rw [hall]
    simp only [entries, entriesOf, hfolders, hfiles]
  rw [hsends.page, ← hentries]
  cases token with
  | none => rfl
  | some t =>
    have hmore := hsends.more.1 rfl
    have hspent : ¬ 0 < (w.take (Child.page ((items.drop pos).take n) (some t))).remaining := by
      rw [hbudget]
      push_cast
      omega
    show (if 0 < (w.take (Child.page ((items.drop pos).take n) (some t))).remaining ∧ _ then _
      else _) = _
    rw [if_neg fun hgo => hspent hgo.1]

/-- A walk through children ends with the first `cap` of them, by induction on what is left of the
budget. -/
theorem collect (h : At source cap pos w s) {limit : Nat} (hlimit : w.remaining ≤ limit) :
    ∃ requests, Walk.collect source.fetch limit w s =
        (requests, .finished (.ok (entriesOf keyPrefix (items.take cap.toNat)))) ∧
      requests.length ≤ w.remaining := by
  induction limit generalizing w s pos with
  | zero =>
    have hleft := h.left
    omega
  | succ limit ih =>
    have hleft := h.left
    have hremaining := h.remaining
    obtain ⟨n, token, hsends⟩ := source.sends s w.request pos h.keyPrefix h.maxKeys.1 h.token
    by_cases hgo : pos + n < items.length ∧ (pos + n : Int) < cap
    · obtain ⟨next, hwaiting, hnext⟩ := h.next hsends hgo.1 hgo.2
      have hprogress := hsends.progress
      have hless : next.remaining < w.remaining := by
        rw [hnext.remaining]
        push_cast
        omega
      obtain ⟨requests, hcollect, hlength⟩ := ih hnext (by push_cast at hlimit; omega)
      refine ⟨w.request :: requests, ?_, ?_⟩
      · rw [collect_of_waiting source.fetch limit hwaiting, hcollect]
      · rw [List.length_cons]
        push_cast
        omega
    · refine ⟨[w.request], collect_of_finished source.fetch limit (h.last hsends hgo), ?_⟩
      simpa using hleft

end At

theorem map_eq_of_forall₂ {α β γ : Type} {f : α → γ} {g : β → γ} {as : List α} {bs : List β}
    (h : List.Forall₂ (fun a b => g b = f a) as bs) : bs.map g = as.map f := by
  induction h with
  | nil => rfl
  | cons hab _ ih => rw [List.map_cons, List.map_cons, hab, ih]

/-- The keys of the children are those of the folders and those of the objects. -/
theorem perm_keys (items : List Child) :
    (folderKeys items ++ (objectsOf items).map (·.key)).Perm (items.map Child.key) := by
  induction items with
  | nil => exact .nil
  | cons c rest ih =>
    cases c with
    | folder k => exact ih.cons k
    | object o => exact List.perm_middle.trans (ih.cons o.key)

/-- A listing of at most `cap` entries asks a conformant source for at most `cap` pages, however the
source splits them, and lists the first `cap` children: the folders in order, then the objects in
order but for the listed start itself, each with its key without the listed start as its name, and
no key twice. -/
theorem collect_children {b : Bucket} (hitems : b.Children keyPrefix items)
    (source : ConformantSource σ keyPrefix items) (s : σ) (hcap : 1 ≤ cap) {limit : Nat}
    (hlimit : cap ≤ limit) :
    ∃ requests folders files,
      collect source.fetch limit (start keyPrefix cap) s =
        (requests, .finished (.ok (folders ++ files))) ∧
      requests.length ≤ cap ∧
      List.Forall₂ (Descriptor.IsFolder keyPrefix) (folderKeys (items.take cap.toNat)) folders ∧
      List.Forall₂ (Descriptor.IsFile keyPrefix)
        ((objectsOf (items.take cap.toNat)).filter fun o => o.key ≠ keyPrefix) files ∧
      ((folders ++ files).map (·.key)).Nodup := by
  obtain ⟨requests, hcollect, hlength⟩ := (at_start source hcap s).collect hlimit
  have hkeys : ∀ c ∈ items.take cap.toNat, ∃ name, c.key = keyPrefix ++ name := fun c hc =>
    let ⟨_, _, hshows⟩ := (hitems.mem_iff c).1 (List.mem_of_mem_take hc)
    hshows.key_eq
  have hfolderNames : ∀ k ∈ folderKeys (items.take cap.toNat), ∃ name, k = keyPrefix ++ name := by
    intro k hk
    obtain ⟨c, hc, hfolder⟩ := List.mem_filterMap.1 hk
    cases c with
    | folder k' =>
      cases hfolder
      exact hkeys _ hc
    | object o => cases hfolder
  have hfileNames : ∀ o ∈ objectsOf (items.take cap.toNat), ∃ name, o.key = keyPrefix ++ name := by
    intro o ho
    obtain ⟨c, hc, hobject⟩ := List.mem_filterMap.1 ho
    cases c with
    | folder k => cases hobject
    | object o' =>
      cases hobject
      exact hkeys _ hc
  have hfolders := forall₂_isFolder hfolderNames
  have hfiles := forall₂_isFile hfileNames
  refine ⟨requests, _, _, hcollect, hlength, hfolders, hfiles, ?_⟩
  -- The keys of the entries are among those of the children, which are all different.
  have hfolderKeys := map_eq_of_forall₂ (f := id) (hfolders.imp fun _ _ h => h.key)
  have hfileKeys := map_eq_of_forall₂ (f := (·.key)) (hfiles.imp fun _ _ h => h.key)
  have hshown : ((items.take cap.toNat).map Child.key).Nodup :=
    hitems.nodup_keys.sublist ((List.take_sublist _ _).map _)
  rw [List.map_append, hfolderKeys, hfileKeys, List.map_id]
  exact ((perm_keys _).nodup_iff.2 hshown).sublist
    ((List.Sublist.refl _).append ((List.filter_sublist ..).map _))

/-- Three children, one on each page: the listed start itself, a folder with two objects, and an
object. -/
theorem collect_children_docs :
    ∃ b : Bucket, b.objects.map (·.key) = ["docs/", "docs/a/1", "docs/a/2", "docs/b", "other"] ∧
      b.Children "docs/" (b.childrenOf "docs/") ∧
      (1 : Int) ≤ 3 ∧
      ∃ requests folders files,
        collect (ConformantSource.ofSize "docs/" (b.childrenOf "docs/") 1 (Nat.le_refl 1)).fetch 3
          (start "docs/" 3) () = (requests, .finished (.ok (folders ++ files))) ∧
        (requests.length : Int) ≤ 3 ∧
        List.Forall₂ (Descriptor.IsFolder "docs/") (folderKeys ((b.childrenOf "docs/").take 3))
          folders ∧
        List.Forall₂ (Descriptor.IsFile "docs/")
          ((objectsOf ((b.childrenOf "docs/").take 3)).filter fun o => o.key ≠ "docs/") files ∧
        ((folders ++ files).map (·.key)).Nodup := by
  let b : Bucket := ⟨[⟨"docs/", "", 0, none⟩, ⟨"docs/a/1", "", 3, none⟩, ⟨"docs/a/2", "", 4, none⟩,
    ⟨"docs/b", "", 5, none⟩, ⟨"other", "", 6, none⟩], by decide⟩
  have hitems := b.children_childrenOf "docs/"
  exact ⟨b, rfl, hitems, by decide,
    collect_children hitems (.ofSize "docs/" (b.childrenOf "docs/") 1 (Nat.le_refl 1)) ()
      (by decide) (by decide)⟩

end Walk

end ObjectGateway
