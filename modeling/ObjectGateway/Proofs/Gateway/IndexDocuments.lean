import ObjectGateway.Proofs.Gateway.Links

/-!
# The keys of index documents

A folder is asked for its index document at a key that is made from that of the folder, and the
document can be asked for as a file as well, at the key of the whole path.  In the first key the
slashes at the end of the folder are taken as one, in the second they are kept.  So the two are the
same key exactly where the folder does not end in several slashes: `indexDocument_probed`.
-/

namespace ObjectGateway

/-- The path of a file in a folder. -/
def pathIn (folder name : String) : String :=
  if folder = "" then "/" ++ name else folder ++ name

/-- The key of a folder with one slash at its end, however many it has; the empty key has none. -/
def withOneSlash (key : String) : String :=
  if key = "" then "" else String.ofList (Text.dropTrailing (· = '/') key.toList ++ ['/'])

/-- A key is empty or names something, so that it is not made of slashes alone. -/
def NamesFolder (key : String) : Prop := key = "" ∨ ∃ c ∈ key.toList, c ≠ '/'

instance (key : String) : Decidable (NamesFolder key) :=
  decidable_of_iff (key = "" ∨ key.toList.any (· ≠ '/') = true) <| by
    rw [List.any_eq_true]
    simp only [NamesFolder, decide_eq_true_eq]

/-! ## Slashes -/

section Slashes

variable {folder name key : String}

theorem ne_empty_of_exists_ne (h : ∃ c ∈ key.toList, c ≠ '/') : key ≠ "" := by
  rintro rfl
  obtain ⟨c, hc, -⟩ := h
  cases hc

theorem dropTrailing_ne_nil (h : ∃ c ∈ key.toList, c ≠ '/') :
    Text.dropTrailing (· = '/') key.toList ≠ [] := by
  obtain ⟨c, hc, hne⟩ := h
  intro hnil
  rw [Text.dropTrailing, List.reverse_eq_nil_iff, List.dropWhile_eq_nil_iff] at hnil
  have hslash := hnil c (List.mem_reverse.2 hc)
  exact hne (of_decide_eq_true hslash)

/-- A name that begins with no slash is put behind the one slash of its folder. -/
theorem joinKey_eq (hkey : NamesFolder key) (hname : name.toList.head? ≠ some '/') :
    joinKey key name = withOneSlash key ++ name := by
  have hbare : name.toList.dropWhile (· = '/') = name.toList := by
    refine Text.dropWhile_eq_self fun c hc => decide_eq_false fun hslash => hname ?_
    rw [← hslash]
    exact hc
  rcases hkey with rfl | hkey
  · simp [joinKey, withOneSlash, hbare]
  · have hne := ne_empty_of_exists_ne hkey
    have hstands : (key.toList.reverse.dropWhile (· = '/')).isEmpty = false := by
      have hkept := dropTrailing_ne_nil hkey
      rw [Text.dropTrailing, ne_eq, List.reverse_eq_nil_iff] at hkept
      exact List.isEmpty_eq_false_iff.2 hkept
    rw [joinKey, withOneSlash, if_neg hne]
    simp only [hstands, Bool.false_eq_true, if_false, hbare]
    rw [← String.toList_inj]
    simp [Text.dropTrailing]

/-- Taking the slashes at the end as one changes a folder that ends in several of them alone. -/
theorem withOneSlash_eq_iff (hkey : NamesFolder key) (hfolder : isFolderPath key = true) :
    withOneSlash key = key ↔ ¬"//".toList <:+ key.toList := by
  rcases hkey with rfl | hkey
  · exact iff_of_true rfl (by decide)
  · have hne := ne_empty_of_exists_ne hkey
    obtain ⟨before, hbefore⟩ :=
      List.getLast?_eq_some_iff.1 ((isFolderPath_iff.1 hfolder).resolve_left hne)
    have hdrop : Text.dropTrailing (· = '/') key.toList = Text.dropTrailing (· = '/') before := by
      rw [hbefore, Text.dropTrailing_append_singleton (by decide)]
    have hself : Text.dropTrailing (· = '/') before = before ↔ ¬before.getLast? = some '/' := by
      rw [Text.dropTrailing_eq_self_iff]
      exact ⟨fun h hslash => of_decide_eq_false (h '/' hslash) rfl,
        fun h c hc => decide_eq_false fun hslash => h (hslash ▸ hc)⟩
    -- Behind the last slash there is another one if what is before it ends in one.
    have hsuffix : "//".toList <:+ key.toList ↔ before.getLast? = some '/' := by
      rw [hbefore, List.getLast?_eq_some_iff]
      constructor
      · rintro ⟨start, hstart⟩
        refine ⟨start, (List.append_left_inj ['/']).1 ?_⟩
        rw [← hstart, List.append_assoc]
        rfl
      · rintro ⟨start, rfl⟩
        exact ⟨start, by simp⟩
    rw [withOneSlash, if_neg hne, hdrop, hsuffix, ← hself, ← String.toList_inj,
      String.toList_ofList, hbefore, List.append_left_inj]

end Slashes

namespace Gateway

variable {g : Gateway} {ctx : RequestContext} {folder index key : String} {input : GetInput}
  {t : Conversation GatewayInterface}

/-! ## The two keys -/

/-- The key of a file in a folder is that of the folder with the name behind it. -/
theorem startKey_pathIn (g : Gateway) (folder name : String) :
    g.startKey (pathIn folder name) = g.startKey folder ++ name := by
  unfold pathIn
  split
  · next hempty =>
    subst hempty
    simp [startKey, dropLeadingSlash]
  · next hne => rw [startKey, startKey, dropLeadingSlash_append hne, String.append_assoc]

/-- A file in a folder is named as it is on its own. -/
theorem isFolderPath_pathIn (hfolder : isFolderPath folder = true) (name : String) :
    isFolderPath (pathIn folder name) = isFolderPath name := by
  unfold pathIn
  split
  · exact isFolderPath_append (by decide) name
  · exact isFolderPath_append hfolder name

/-! ## The calls of the store -/

/-- A read of a folder that has an index document asks for this first. -/
theorem storeCalls_of_indexed {mode : ReadMode} (h : (g.read ctx mode input).Runs t ())
    (hkey : g.objectKey ctx input.requestPath = .ok key)
    (hfolder : isFolderPath input.requestPath = true) (hindex : g.indexDocument? = some index) :
    ∃ reply rest, t.storeCalls = ⟨.head (joinKey key index), reply⟩ :: rest := by
  cases ReadRun.of_runs h with
  | unrewritten hfailed => cases hkey.symm.trans hfailed
  | file _ hpath _ => cases hfolder.symm.trans hpath
  | @folder key' t hkey' _ hrun =>
    obtain rfl : key' = key := Except.ok.inj (hkey'.symm.trans hkey)
    cases hrun with
    | listed hnone _ => cases hindex.symm.trans hnone
    | unindexed hsome _ =>
      cases hindex.symm.trans hsome
      exact ⟨_, _, rfl⟩
    | unknown hsome _ =>
      cases hindex.symm.trans hsome
      exact ⟨_, _, rfl⟩
    | indexed hsome _ =>
      cases hindex.symm.trans hsome
      exact ⟨_, _, rfl⟩

/-- The calls of the store that pass an object on. -/
theorem storeCalls_of_streamFile {a : Answer Unit} (h : (g.streamFile key input).Runs t a) :
    ∃ reply, t.storeCalls = [⟨.get key input.conditions, reply⟩] := by
  rcases streamFile_runs_iff.1 h with
    ⟨f, rfl, rfl⟩ | ⟨output, info, f, rfl, rfl⟩ | ⟨output, info, rfl, rfl⟩
  · exact ⟨_, rfl⟩
  · exact ⟨_, rfl⟩
  · exact ⟨_, rfl⟩

theorem storeCalls_of_redirectToSignedUrl {a : Answer Unit}
    (h : (g.redirectToSignedUrl key input).Runs t a) :
    ∀ e ∈ t.storeCalls, e.op.key = key := by
  rw [redirectToSignedUrl_runs_iff] at h
  split at h
  · obtain ⟨rfl, rfl⟩ := h
    simp
  · rcases h with ⟨f, rfl, rfl⟩ | ⟨url, rfl, rfl⟩
    · simp [StoreCall.key]
    · simp [StoreCall.key]

theorem storeCalls_of_found {mode : ReadMode} {found : HeadOutput} {info : ResultInfo}
    {a : Answer Unit} (h : FoundRun g key key input found info mode t a) :
    ∀ e ∈ t.storeCalls, e.op.key = key := by
  cases h with
  | described a => simp
  | redirected _ h => exact storeCalls_of_redirectToSignedUrl h
  | streamed _ h =>
    obtain ⟨reply, hcalls⟩ := storeCalls_of_streamFile h
    simp [hcalls, StoreCall.key]

/-- A read of a file calls the store, and about the key of the file alone. -/
theorem storeCalls_key_of_file {mode : ReadMode} (h : (g.read ctx mode input).Runs t ())
    (hkey : g.objectKey ctx input.requestPath = .ok key)
    (hfile : isFolderPath input.requestPath = false) :
    t.storeCalls ≠ [] ∧ ∀ e ∈ t.storeCalls, e.op.key = key := by
  have hanswer (outcome : Failure → Outcome) (a : Answer Unit) :
      Conversation.storeCalls (failureAnswer outcome a) = [] := by
    rcases a with f | ⟨⟨⟩⟩
    · rfl
    · rfl
  cases ReadRun.of_runs h with
  | unrewritten hfailed => cases hkey.symm.trans hfailed
  | folder _ hpath _ => cases hfile.symm.trans hpath
  | @file key' t a hkey' _ hrun =>
    obtain rfl : key' = key := Except.ok.inj (hkey'.symm.trans hkey)
    rw [Conversation.storeCalls_append, hanswer, List.append_nil]
    cases hrun with
    | unfound _ f => simp [StoreCall.key]
    | found _ h => simpa [StoreCall.key] using storeCalls_of_found h
    | opened _ h =>
      obtain ⟨reply, hcalls⟩ := storeCalls_of_streamFile h
      simp [hcalls, StoreCall.key]

/-! ## Index documents -/

theorem ne_empty_of_indexDocument? (h : g.indexDocument? = some index) : index ≠ "" := by
  unfold indexDocument? at h
  obtain ⟨name, -, hname⟩ := Option.bind_eq_some_iff.1 h
  split at hname
  · cases hname
  · next hne =>
    cases hname
    simpa using hne

/-- Where an index document is looked for, without rules.  A read of a folder asks the store first
for the name of the index document, behind the key of the folder with the slashes at its end taken
as one.  A read of the file of that name in the folder calls the store about the name behind the key
of the folder, as it is.  So the two are one key exactly where the key of the folder does not end in
several slashes. -/
theorem indexDocument_probed (hrules : g.target.rules = []) (hfolder : isFolderPath folder = true)
    (hindex : g.indexDocument? = some index) (hhead : index.toList.head? ≠ some '/')
    (hlast : index.toList.getLast? ≠ some '/') (hkey : NamesFolder (g.startKey folder)) :
    joinKey (g.startKey folder) index = withOneSlash (g.startKey folder) ++ index ∧
      g.startKey (pathIn folder index) = g.startKey folder ++ index ∧
      (joinKey (g.startKey folder) index = g.startKey (pathIn folder index) ↔
        ¬"//".toList <:+ (g.startKey folder).toList) ∧
      ∀ ctx mode conditions t,
        ((g.read ctx mode ⟨folder, conditions⟩).Runs t () →
          ∃ reply rest,
            t.storeCalls = ⟨.head (joinKey (g.startKey folder) index), reply⟩ :: rest) ∧
        ((g.read ctx mode ⟨pathIn folder index, conditions⟩).Runs t () →
          t.storeCalls ≠ [] ∧
            ∀ e ∈ t.storeCalls, e.op.key = g.startKey (pathIn folder index)) := by
  have hjoined := joinKey_eq hkey hhead
  have hread := g.startKey_pathIn folder index
  refine ⟨hjoined, hread, ?_, fun ctx mode conditions t => ⟨fun h => ?_, fun h => ?_⟩⟩
  · have hsame : withOneSlash (g.startKey folder) ++ index = g.startKey folder ++ index ↔
        withOneSlash (g.startKey folder) = g.startKey folder := by
      rw [← String.toList_inj, ← String.toList_inj, String.toList_append, String.toList_append,
        List.append_left_inj]
    rw [hjoined, hread, hsame]
    exact withOneSlash_eq_iff hkey ((g.isFolderPath_startKey folder).trans hfolder)
  · exact storeCalls_of_indexed h (objectKey_eq_startKey hrules ctx folder) hfolder hindex
  · have hname : isFolderPath index = false :=
      isFolderPath_eq_false_iff.2 ⟨ne_empty_of_indexDocument? hindex, hlast⟩
    refine storeCalls_key_of_file h (objectKey_eq_startKey hrules ctx _) ?_
    rw [isFolderPath_pathIn hfolder, hname]

/-- A folder below a prefix of the bucket. -/
theorem indexDocument_probed_docs :
    let plain := docs [] ⟨some ⟨true, { GetConfig.standard with indexDocument := some "i.html" }⟩,
      none, none⟩
    let config := plain.target.config
    let g : Gateway :=
      { plain with target :=
        { plain.target with config :=
          { config with bucket := { config.bucket with keyPrefix := "data" } } } }
    joinKey (g.startKey "/a/") "i.html" = "data/a/i.html" ∧
      g.startKey (pathIn "/a/" "i.html") = "data/a/i.html" ∧
      ∀ ctx mode conditions t,
        ((g.read ctx mode ⟨"/a/", conditions⟩).Runs t () →
          ∃ reply rest, t.storeCalls = ⟨.head "data/a/i.html", reply⟩ :: rest) ∧
        ((g.read ctx mode ⟨"/a/i.html", conditions⟩).Runs t () →
          t.storeCalls ≠ [] ∧ ∀ e ∈ t.storeCalls, e.op.key = "data/a/i.html") := by
  intro plain config g
  have hprobed : joinKey (g.startKey "/a/") "i.html" = "data/a/i.html" := by decide +kernel
  have hread : g.startKey (pathIn "/a/" "i.html") = "data/a/i.html" := by decide +kernel
  have hpath : pathIn "/a/" "i.html" = "/a/i.html" := by decide +kernel
  have hfolder : isFolderPath "/a/" = true := by decide +kernel
  have hindex : g.indexDocument? = some "i.html" := rfl
  obtain ⟨-, -, -, hcalls⟩ := indexDocument_probed rfl hfolder hindex (by decide +kernel)
    (by decide +kernel) (by decide +kernel)
  rw [hprobed, hread, hpath] at hcalls
  exact ⟨hprobed, hread, hcalls⟩

/-- The two keys are not always the same: of the slashes at the end of a folder, an index document
is looked for behind one. -/
theorem joinKey_ne_startKey :
    ¬∀ (g : Gateway) (folder index : String), g.target.rules = [] → isFolderPath folder = true →
      index ≠ "" → index.toList.head? ≠ some '/' → index.toList.getLast? ≠ some '/' →
      joinKey (g.startKey folder) index = g.startKey (pathIn folder index) := by
  intro h
  have hsame := h (docs [] ⟨none, none, none⟩) "/docs//" "index.html" rfl (by decide +kernel)
    (by decide) (by decide) (by decide)
  exact absurd hsame (by decide +kernel)

end Gateway

end ObjectGateway
