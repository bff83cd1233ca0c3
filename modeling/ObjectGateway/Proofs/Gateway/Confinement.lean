import ObjectGateway.Proofs.Gateway.Mutation

/-!
# Keys below the start of a target

A target without rules has keys below its start alone.  Where that start is empty, or a text that is
not empty and does not end in a slash with one slash behind it, every call of the store names a key
that begins with it, whatever paths and names are asked for: `serveAll_confined`.

The key of a path begins with the start as it is.  That of an index document is made anew, without
the slashes at the end of the folder; these never take the start with them, since it has only one of
them at its end, which is put back.
-/

namespace ObjectGateway

/-- The start of all keys is empty or names a folder, with a single slash at its end. -/
def IsRoot (root : String) : Prop :=
  root = "" ∨ ∃ folder : String, root = folder ++ "/" ∧ folder ≠ "" ∧
    folder.toList.getLast? ≠ some '/'

/-- Every call of the store names a key that begins with a start. -/
def Confined (root : String) (t : Conversation GatewayInterface) : Prop :=
  ∀ e ∈ t.storeCalls, root.toList <+: e.op.key.toList

/-! ## Names in folders -/

/-- Slashes are taken off the end of a key, but not further than to a slash that stands behind
something else. -/
theorem dropWhile_reverse_cons_slash {folder : List Char} (hne : folder ≠ [])
    (hlast : folder.getLast? ≠ some '/') (rest : List Char) :
    ∃ kept, ((folder ++ '/' :: rest).reverse.dropWhile (· = '/')).reverse = folder ++ kept ∧
      (kept = [] ∨ ∃ more, kept = '/' :: more) := by
  have hsplit : (folder ++ '/' :: rest).reverse = rest.reverse ++ '/' :: folder.reverse := by simp
  have hfolder : ('/' :: folder.reverse).dropWhile (· = '/') = folder.reverse := by
    obtain ⟨start, c, rfl⟩ := (List.eq_nil_or_concat folder).resolve_left hne
    have hc : c ≠ '/' := by simpa using hlast
    simp [hc]
  rw [hsplit, List.dropWhile_append]
  split
  · exact ⟨[], by rw [hfolder]; simp, .inl rfl⟩
  · exact ⟨'/' :: (rest.reverse.dropWhile (· = '/')).reverse, by simp, .inr ⟨_, rfl⟩⟩

/-- A name in a folder of a target begins as all keys do. -/
theorem IsRoot.prefix_joinKey {root key : String} (hroot : IsRoot root)
    (hkey : root.toList <+: key.toList) (name : String) :
    root.toList <+: (joinKey key name).toList := by
  rcases hroot with rfl | ⟨folder, rfl, hne, hlast⟩
  · exact List.nil_prefix
  · obtain ⟨rest, hrest⟩ := hkey
    have hfolder : folder.toList ≠ [] := by simpa using hne
    obtain ⟨kept, hkept, hslash⟩ := dropWhile_reverse_cons_slash hfolder hlast rest
    have hkey : key.toList = folder.toList ++ '/' :: rest := by simp [← hrest]
    have hjoined : ((key.toList.reverse.dropWhile (· = '/')).reverse) = folder.toList ++ kept := by
      rw [hkey, hkept]
    have hstands : (key.toList.reverse.dropWhile (· = '/')).isEmpty = false := by
      rw [← List.isEmpty_reverse, hjoined]
      simp [hfolder]
    simp only [joinKey, hstands, Bool.false_eq_true, if_false, hjoined, String.toList_ofList,
      String.toList_append]
    -- The slash behind the folder is one that was kept, or else the one before the name.
    rcases hslash with rfl | ⟨more, rfl⟩
    · exact ⟨name.toList.dropWhile (· = '/'), by simp⟩
    · exact ⟨more ++ '/' :: name.toList.dropWhile (· = '/'), by simp⟩

/-! ## Single requests -/

theorem Confined.append {root : String} {t u : Conversation GatewayInterface} (ht : Confined root t)
    (hu : Confined root u) : Confined root (t ++ u) := by
  intro e he
  rw [Conversation.storeCalls_append] at he
  exact (List.mem_append.1 he).elim (ht e) (hu e)

theorem Confined.cons_called {root : String} {c : StoreCall} {reply : c.Reply}
    {t : Conversation GatewayInterface} (hc : root.toList <+: c.key.toList) (ht : Confined root t) :
    Confined root (Exchange.called c reply :: t) := by
  intro e he
  rw [Conversation.storeCalls_called] at he
  rcases List.mem_cons.1 he with rfl | he
  · exact hc
  · exact ht e he

/-- Where the store is not called, nothing can name a wrong key. -/
theorem confined_of_storeCalls_nil {root : String} {t : Conversation GatewayInterface}
    (h : t.storeCalls = []) : Confined root t := by
  intro e he
  rw [h] at he
  cases he

namespace Gateway

open Exchange (called told sent answered)

section Requests

variable {g : Gateway} {ctx : RequestContext} {mode : ReadMode} {key contentKey root : String}
  {input : GetInput} {t : Conversation GatewayInterface} {a : Answer Unit}

theorem failureAnswer_confined (outcome : Failure → Outcome) (a : Answer Unit) :
    Confined root (failureAnswer outcome a) := by
  apply confined_of_storeCalls_nil
  rcases a with f | ⟨⟨⟩⟩
  · rfl
  · rfl

theorem streamFile_confined (hkey : root.toList <+: key.toList)
    (h : (g.streamFile key input).Runs t a) : Confined root t := by
  rcases streamFile_runs_iff.1 h with
    ⟨f, rfl, rfl⟩ | ⟨output, info, f, rfl, rfl⟩ | ⟨output, info, rfl, rfl⟩
  · exact .cons_called hkey (confined_of_storeCalls_nil rfl)
  · exact .cons_called hkey (confined_of_storeCalls_nil rfl)
  · exact .cons_called hkey (confined_of_storeCalls_nil rfl)

theorem redirectToSignedUrl_confined (hkey : root.toList <+: key.toList)
    (h : (g.redirectToSignedUrl key input).Runs t a) : Confined root t := by
  rw [redirectToSignedUrl_runs_iff] at h
  split at h
  · obtain ⟨rfl, rfl⟩ := h
    exact confined_of_storeCalls_nil rfl
  · rcases h with ⟨f, rfl, rfl⟩ | ⟨url, rfl, rfl⟩
    · exact .cons_called hkey (confined_of_storeCalls_nil rfl)
    · exact .cons_called hkey (confined_of_storeCalls_nil rfl)

theorem FoundRun.confined {found : HeadOutput} {info : ResultInfo}
    (hkey : root.toList <+: key.toList) (hcontent : root.toList <+: contentKey.toList)
    (h : FoundRun g key contentKey input found info mode t a) : Confined root t := by
  cases h with
  | described a => exact confined_of_storeCalls_nil rfl
  | redirected _ h => exact redirectToSignedUrl_confined hkey h
  | streamed _ h => exact streamFile_confined hcontent h

theorem FileRun.confined (hkey : root.toList <+: key.toList) (h : FileRun g key input mode t a) :
    Confined root t := by
  cases h with
  | unfound _ f => exact .cons_called hkey (confined_of_storeCalls_nil rfl)
  | found _ h => exact .cons_called hkey (h.confined hkey hkey)
  | opened _ h => exact streamFile_confined hkey h

theorem ListingRun.confined (hkey : root.toList <+: key.toList)
    (h : ListingRun g ctx mode key input t) : Confined root t := by
  cases h with
  | disabled _ => exact confined_of_storeCalls_nil rfl
  | unlisted f => exact .cons_called hkey (confined_of_storeCalls_nil rfl)
  | listed ds info => exact .cons_called hkey (confined_of_storeCalls_nil rfl)

theorem FolderRun.confined (hroot : IsRoot root) (hkey : root.toList <+: key.toList)
    (hnames : t.NamesKeys) (h : FolderRun g ctx mode key input t) : Confined root t := by
  cases h with
  | listed _ h => exact h.confined hkey
  | unindexed _ h => exact .cons_called (hroot.prefix_joinKey hkey _) (h.confined hkey)
  | unknown _ _ =>
    exact .cons_called (hroot.prefix_joinKey hkey _) (confined_of_storeCalls_nil rfl)
  | @indexed index found info t a _ h =>
    have hindex := hroot.prefix_joinKey hkey index
    -- The content of an index document is opened at the key that the store names.
    have hfound : found.key = joinKey key index := hnames _ _ _ List.mem_cons_self
    have hcontent : root.toList <+: found.key.toList := by rwa [hfound]
    exact .cons_called hindex ((h.confined hindex hcontent).append (failureAnswer_confined _ _))

/-- The key of a path begins with the start of all keys. -/
theorem prefix_objectKey (hrules : g.target.rules = []) {path : String}
    (hkey : g.objectKey ctx path = .ok key) : g.rootPrefix.toList <+: key.toList := by
  obtain rfl : g.startKey path = key :=
    Except.ok.inj ((objectKey_eq_startKey hrules ctx path).symm.trans hkey)
  exact ⟨(dropLeadingSlash path).toList, by rw [startKey, String.toList_append]⟩

theorem read_confined (hrules : g.target.rules = []) (hroot : IsRoot g.rootPrefix)
    (hnames : t.NamesKeys) (h : (g.read ctx mode input).Runs t ()) : Confined g.rootPrefix t := by
  cases ReadRun.of_runs h with
  | unrewritten _ => exact confined_of_storeCalls_nil rfl
  | folder hkey _ hfolder => exact hfolder.confined hroot (prefix_objectKey hrules hkey) hnames
  | file hkey _ hfile =>
    exact (hfile.confined (prefix_objectKey hrules hkey)).append (failureAnswer_confined _ _)

theorem absenceCheck_confined (hkey : root.toList <+: key.toList) :
    Confined root (g.absenceCheck key) := by
  unfold absenceCheck
  split
  · exact .cons_called hkey (confined_of_storeCalls_nil rfl)
  · exact confined_of_storeCalls_nil rfl

theorem WriteRun.confined {input : PutInput} (hrules : g.target.rules = [])
    (h : WriteRun g ctx input t) : Confined g.rootPrefix t := by
  -- An upload is stored at the key of its path, whatever metadata it is given.
  have hput {key : String} {r : PutRequest} (hkey : g.objectKey ctx (uploadPath input) = .ok key)
      (hrequest : g.uploadRequest ctx input key = .ok r) :
      g.rootPrefix.toList <+: r.key.toList := by
    rw [(uploadRequest_key_body hrequest).1]
    exact prefix_objectKey hrules hkey
  cases h with
  | unrewritten _ => exact confined_of_storeCalls_nil rfl
  | unrendered _ _ => exact confined_of_storeCalls_nil rfl
  | occupied hkey _ _ =>
    exact .cons_called (prefix_objectKey hrules hkey) (confined_of_storeCalls_nil rfl)
  | unknown hkey _ _ _ =>
    exact .cons_called (prefix_objectKey hrules hkey) (confined_of_storeCalls_nil rfl)
  | unstored hkey hrequest =>
    exact (absenceCheck_confined (prefix_objectKey hrules hkey)).append
      (.cons_called (hput hkey hrequest) (confined_of_storeCalls_nil rfl))
  | stored hkey hrequest =>
    exact (absenceCheck_confined (prefix_objectKey hrules hkey)).append
      (.cons_called (hput hkey hrequest) (confined_of_storeCalls_nil rfl))

theorem RemoveRun.confined {path : String} (hrules : g.target.rules = [])
    (h : RemoveRun g ctx path t) : Confined g.rootPrefix t := by
  cases h with
  | unrewritten _ => exact confined_of_storeCalls_nil rfl
  | folder _ _ => exact confined_of_storeCalls_nil rfl
  | unremoved hkey _ =>
    exact .cons_called (prefix_objectKey hrules hkey) (confined_of_storeCalls_nil rfl)
  | removed hkey _ =>
    exact .cons_called (prefix_objectKey hrules hkey) (confined_of_storeCalls_nil rfl)

theorem serve_confined {request : Request} (hrules : g.target.rules = [])
    (hroot : IsRoot g.rootPrefix) (hnames : t.NamesKeys) (h : (g.serve ctx request).Runs t ()) :
    Confined g.rootPrefix t := by
  cases request with
  | read mode input => exact read_confined hrules hroot hnames h
  | write input => exact (write_runs_iff.1 h).confined hrules
  | remove path => exact (remove_runs_iff.1 h).confined hrules

end Requests

/-! ## Requests in turn -/

/-- Without rules, the requests for a target never leave the start of its keys.  Whatever is read,
stored or removed, in whichever paths and under whichever names, and whatever the store replies, as
long as it finds objects only at the keys that it is asked for, every key and every start of keys
that the store is called with begins with that of the target. -/
theorem serveAll_confined {g : Gateway} {requests : List (RequestContext × Request)}
    {t : Conversation GatewayInterface} (hrules : g.target.rules = [])
    (hroot : IsRoot g.rootPrefix) (hnames : t.NamesKeys) (h : (g.serveAll requests).Runs t ()) :
    Confined g.rootPrefix t := by
  induction requests generalizing t with
  | nil =>
    obtain rfl : t = [] := by simpa [serveAll] using h
    exact confined_of_storeCalls_nil rfl
  | cons p rest ih =>
    rw [serveAll, Flow.runs_monad_bind_iff] at h
    obtain ⟨⟨⟩, t₁, t₂, hfirst, hrest, rfl⟩ := h
    exact (serve_confined hrules hroot hnames.of_append_left hfirst).append
      (ih hnames.of_append_right hrest)

/-- Paths of slashes and dots below a folder of a bucket, with an index document. -/
theorem serveAll_confined_docs :
    let plain := docs [] ⟨some ⟨true, { GetConfig.standard with indexDocument := some "/i" }⟩,
      none, none⟩
    let config := plain.target.config
    let g : Gateway :=
      { plain with target :=
        { plain.target with config :=
          { config with bucket := { config.bucket with keyPrefix := "data" } } } }
    let requests : List (RequestContext × Request) :=
      [(default, .read .get ⟨"///", .none⟩), (default, .read .head ⟨"/../x/", .none⟩),
        (default, .write ⟨"/..", "../y", "text/plain", 1, [104]⟩), (default, .remove "/../x")]
    let t := ((g.serveAll requests).converse (MemoryStore.serve fun _ => .ok ())
      (MemoryStore.ofObjects [("data/i", [105])])).exchanges
    g.rootPrefix = "data/" ∧ t.storeCalls.map (fun e => e.op.label) =
        ["head data/i", "get data/i", "head data/../x/i", "list data/../x/", "put data/../../y",
          "delete data/../x"] ∧
      Confined g.rootPrefix t := by
  intro plain config g requests t
  have hroot : g.rootPrefix = "data/" := by decide +kernel
  have hnames : t.NamesKeys := MemoryStore.namesKeys_of_serves (Flow.converse_serves _ _ _)
  refine ⟨hroot, by decide +kernel, serveAll_confined rfl ?_ hnames (Flow.converse_runs_unit _ _ _)⟩
  rw [hroot]
  exact .inr ⟨"data", by decide, by decide, by decide⟩

end Gateway

end ObjectGateway
