import ObjectGateway.Proofs.Gateway.Reads
import ObjectGateway.Proofs.Http.Paths
import ObjectGateway.Proofs.Routing
import ObjectGateway.Proofs.Text.Split

/-!
# The links of listings

A listing shows a path for every file and folder below the start of the keys of its target.  Where a
request for such a path is routed back to the mount of the listing, the path below that mount leads
to the very key that was listed: `entries_lead_back`.

Paths are seen as lists of segments here.  A text in which a slash stands before every segment is
cut into these segments again, and only empty ones are lost when it is made as short as possible.
-/

namespace ObjectGateway

/-- A segment that stands for itself in a path. -/
def IsSegment (s : List Char) : Prop := s ≠ [] ∧ s ≠ ['.'] ∧ s ≠ ['.', '.'] ∧ '/' ∉ s

instance : DecidablePred IsSegment := fun s =>
  inferInstanceAs (Decidable (s ≠ [] ∧ s ≠ ['.'] ∧ s ≠ ['.', '.'] ∧ '/' ∉ s))

/-- Segments with a slash before each. -/
def rootedPath (segments : List (List Char)) : List Char := segments.flatMap ('/' :: ·)

/-- The path of a mount. -/
def mountText (segments : List (List Char)) : String := String.ofList (rootedPath segments ++ ['/'])

/-- A file or a folder, seen from above its first segment. -/
def childText (kind : ObjectKind) (segments : List (List Char)) : String :=
  match kind with
  | .file => String.ofList (joinSegments segments)
  | .folder => String.ofList (joinSegments segments ++ ['/'])

section Segments

variable {segments mount : List (List Char)} {kind : ObjectKind}

theorem rootedPath_append (first second : List (List Char)) :
    rootedPath (first ++ second) = rootedPath first ++ rootedPath second := List.flatMap_append

theorem rootedPath_cons (s : List Char) (rest : List (List Char)) :
    rootedPath (s :: rest) = '/' :: s ++ rootedPath rest := List.flatMap_cons

theorem cons_joinSegments (h : segments ≠ []) :
    '/' :: joinSegments segments = rootedPath segments := by
  induction segments with
  | nil => exact absurd rfl h
  | cons s rest ih =>
    cases rest with
    | nil => simp [joinSegments, rootedPath]
    | cons next rest =>
      rw [joinSegments, ih (List.cons_ne_nil next rest), rootedPath_cons s, List.cons_append]
      exact List.cons_ne_nil next rest

theorem foldl_followSegment (rooted : Bool) (h : ∀ s ∈ segments, s = [] ∨ IsSegment s)
    (parts : List (List Char)) :
    segments.foldl (followSegment rooted) parts = (segments.filter (· ≠ [])).reverse ++ parts := by
  induction segments generalizing parts with
  | nil => rfl
  | cons s rest ih =>
    have hrest : ∀ r ∈ rest, r = [] ∨ IsSegment r := fun r hr => h r (List.mem_cons_of_mem s hr)
    rw [List.foldl_cons, ih hrest]
    rcases h s List.mem_cons_self with rfl | ⟨hempty, hdot, hdots, -⟩
    · simp [followSegment]
    · simp [followSegment, hempty, hdot, hdots]

/-- The shortest form of a path leaves out its empty segments. -/
theorem normalPath_rootedPath (hne : segments.filter (· ≠ []) ≠ [])
    (h : ∀ s ∈ segments, s = [] ∨ IsSegment s) :
    normalPath (rootedPath segments) = rootedPath (segments.filter (· ≠ [])) := by
  have hslash : ∀ s ∈ segments, '/' ∉ s := by
    intro s hs
    rcases h s hs with rfl | hsegment
    · exact List.not_mem_nil
    · exact hsegment.2.2.2
  have hhead : (rootedPath segments).head? = some '/' := by
    cases segments with
    | nil => exact absurd rfl hne
    | cons s rest => rfl
  have hsplit : Text.splitOn '/' (rootedPath segments) = [] :: segments :=
    Text.splitOn_flatMap List.not_mem_nil hslash
  have hfollow : followPath true (rootedPath segments) = segments.filter (· ≠ []) := by
    rw [followPath, hsplit, List.foldl_cons, foldl_followSegment true h]
    simp [followSegment]
  simp only [normalPath, hhead, decide_true, if_true, hfollow]
  exact cons_joinSegments hne

theorem filter_of_isSegment (h : ∀ s ∈ segments, IsSegment s) :
    segments.filter (· ≠ []) = segments :=
  List.filter_eq_self.2 fun s hs => decide_eq_true (h s hs).1

theorem joinSegments_ne_nil (hne : segments ≠ []) (h : ∀ s ∈ segments, IsSegment s) :
    joinSegments segments ≠ [] := by
  intro hnil
  have hrooted := cons_joinSegments hne
  obtain ⟨s, rest, rfl⟩ := List.exists_cons_of_ne_nil hne
  rw [hnil, rootedPath_cons] at hrooted
  have hs : s = [] := by simp_all
  exact (h s List.mem_cons_self).1 hs

/-- A slash and a child, as segments: a folder ends with an empty one. -/
theorem cons_childText (hne : segments ≠ []) :
    '/' :: (childText kind segments).toList =
      rootedPath (segments ++ match kind with | .file => [] | .folder => [[]]) := by
  have hjoined := cons_joinSegments hne
  cases kind with
  | file => simpa [childText] using hjoined
  | folder =>
    rw [rootedPath_append, ← hjoined]
    simp [childText, rootedPath]

/-- A mount, a child and what ends it, with one more slash after that of the mount. -/
theorem normalPath_joined {ending : List (List Char)} (hmount : ∀ s ∈ mount, IsSegment s)
    (hne : segments ≠ []) (hsegments : ∀ s ∈ segments, IsSegment s)
    (hending : ∀ s ∈ ending, s = []) :
    normalPath (rootedPath (mount ++ [] :: (segments ++ ending))) =
      rootedPath (mount ++ segments) := by
  have hplain : ∀ s ∈ mount ++ [] :: (segments ++ ending), s = [] ∨ IsSegment s := by
    intro s hs
    simp only [List.mem_append, List.mem_cons] at hs
    rcases hs with hs | rfl | hs | hs
    · exact .inr (hmount s hs)
    · exact .inl rfl
    · exact .inr (hsegments s hs)
    · exact .inl (hending s hs)
  have hkept : (mount ++ [] :: (segments ++ ending)).filter (· ≠ []) = mount ++ segments := by
    have hnone : ending.filter (· ≠ []) = [] :=
      List.filter_eq_nil_iff.2 fun s hs => by simp [hending s hs]
    rw [List.filter_append, List.filter_cons_of_neg (by simp), List.filter_append,
      filter_of_isSegment hmount, filter_of_isSegment hsegments, hnone, List.append_nil]
  have hkeptne : (mount ++ [] :: (segments ++ ending)).filter (· ≠ []) ≠ [] := by
    rw [hkept]
    simp [hne]
  rw [normalPath_rootedPath hkeptne hplain, hkept]

/-- A child is joined to a mount as it stands, but for the slash of a folder. -/
theorem joinPath_mountText (kind : ObjectKind) (hmount : ∀ s ∈ mount, IsSegment s)
    (hne : segments ≠ []) (hsegments : ∀ s ∈ segments, IsSegment s) :
    joinPath (mountText mount) (childText kind segments) =
      mountText mount ++ String.ofList (joinSegments segments) := by
  obtain ⟨ending, hending, hchild⟩ : ∃ ending : List (List Char), (∀ s ∈ ending, s = []) ∧
      '/' :: (childText kind segments).toList = rootedPath (segments ++ ending) := by
    refine ⟨_, ?_, cons_childText hne⟩
    cases kind <;> simp
  -- The slash at the end of the mount and the one that joins leave an empty segment between them.
  have hjoined : (mountText mount).toList ++ '/' :: (childText kind segments).toList =
      rootedPath (mount ++ [] :: (segments ++ ending)) := by
    rw [hchild, rootedPath_append mount, rootedPath_cons]
    simp [mountText]
  have hmountne : (mountText mount).isEmpty = false := by simp [mountText]
  have hchildne : (childText kind segments).isEmpty = false := by
    have hjoin := joinSegments_ne_nil hne hsegments
    cases kind <;> simp [childText, hjoin]
  simp only [joinPath, hmountne, hchildne, Bool.false_eq_true, if_false, hjoined]
  rw [if_neg (by simp [rootedPath]), normalPath_joined hmount hne hsegments hending,
    rootedPath_append, ← cons_joinSegments hne]
  simp [mountText, String.ofList_append, String.append_assoc]

end Segments

/-! ## From entries to keys -/

theorem dropStart_append (start text : String) : dropStart start (start ++ text) = text := by
  have hstrip : Text.stripStart? start.toList (start ++ text).toList = some text.toList := by
    rw [Text.stripStart?_eq_some_iff, String.toList_append]
  rw [dropStart, hstrip]
  exact String.ofList_toList

theorem Gateway.entryPath_mountText {g : Gateway} {mount segments : List (List Char)}
    {d : Descriptor} (hmount : ∀ s ∈ mount, IsSegment s) (hne : segments ≠ [])
    (hsegments : ∀ s ∈ segments, IsSegment s)
    (hkey : d.key = g.rootPrefix ++ childText d.kind segments) :
    g.entryPath (mountText mount) d = mountText mount ++ childText d.kind segments := by
  have hpath := joinPath_mountText d.kind hmount hne hsegments
  unfold entryPath
  rw [hkey, dropStart_append, hpath]
  cases d.kind <;> simp [childText, String.ofList_append, String.append_assoc]

theorem drop_mountText (mount : List (List Char)) (child : String) :
    (mountText mount ++ child).toList.drop ((mountText mount).toList.length - 1) =
      '/' :: child.toList := by
  simp [mountText]

/-! ## From paths to keys -/

theorem dropLeadingSlash_slash (text : String) : dropLeadingSlash ("/" ++ text) = text := by
  simp [dropLeadingSlash]

theorem dropLeadingSlash_append {folder : String} (hne : folder ≠ "") (name : String) :
    dropLeadingSlash (folder ++ name) = dropLeadingSlash folder ++ name := by
  obtain ⟨c, rest, hrest⟩ := List.exists_cons_of_ne_nil (mt String.toList_eq_nil_iff.1 hne)
  have hname : (folder ++ name).toList = c :: (rest ++ name.toList) := by simp [hrest]
  by_cases hc : c = '/'
  · subst hc
    simp only [dropLeadingSlash, hrest, hname, String.ofList_append, String.ofList_toList]
  · simp only [dropLeadingSlash, hrest, hname, List.cons.injEq, hc, false_and, imp_self,
      implies_true]

theorem isFolderPath_iff {path : String} :
    isFolderPath path = true ↔ path = "" ∨ path.toList.getLast? = some '/' := by
  rw [isFolderPath, Bool.or_eq_true, String.isEmpty_iff, decide_eq_true_eq]

theorem isFolderPath_eq_false_iff {path : String} :
    isFolderPath path = false ↔ path ≠ "" ∧ path.toList.getLast? ≠ some '/' := by
  rw [Bool.eq_false_iff, ne_eq, isFolderPath_iff, not_or]

/-- Behind a folder, a path names what it names by itself. -/
theorem isFolderPath_append {start : String} (hstart : isFolderPath start = true)
    (path : String) : isFolderPath (start ++ path) = isFolderPath path := by
  by_cases hempty : path = ""
  · rw [hempty, String.append_empty, hstart]
    rfl
  · have hpath : path.toList ≠ [] := mt String.toList_eq_nil_iff.1 hempty
    rw [Bool.eq_iff_iff, isFolderPath_iff, isFolderPath_iff, String.toList_append,
      List.getLast?_append_of_ne_nil _ hpath]
    simp [hempty]

theorem isFolderPath_dropLeadingSlash (path : String) :
    isFolderPath (dropLeadingSlash path) = isFolderPath path := by
  unfold dropLeadingSlash
  split
  · next rest hrest =>
    have hpath : path = "/" ++ String.ofList rest := String.toList_inj.1 (by simp [hrest])
    rw [hpath, isFolderPath_append (by decide)]
  · rfl

theorem getLast?_rootedPath {segments : List (List Char)} (hne : segments ≠ [])
    (hsegments : ∀ s ∈ segments, IsSegment s) : (rootedPath segments).getLast? ≠ some '/' := by
  induction segments with
  | nil => exact absurd rfl hne
  | cons s rest ih =>
    rw [rootedPath_cons, List.cons_append]
    -- The last segment alone decides, and there is no slash in it.
    by_cases hrest : rest = []
    · obtain ⟨hempty, -, -, hslash⟩ := hsegments s List.mem_cons_self
      have hlast : ('/' :: (s ++ rootedPath rest)).getLast? = s.getLast? := by
        rw [hrest, rootedPath, List.flatMap_nil, List.append_nil,
          List.getLast?_cons_of_ne_nil hempty]
      rw [hlast]
      exact fun hs => hslash (List.mem_of_getLast? hs)
    · have hrooted : rootedPath rest ≠ [] := by simp [← cons_joinSegments hrest]
      rw [← List.cons_append, List.getLast?_append_of_ne_nil _ hrooted]
      exact ih hrest fun r hr => hsegments r (List.mem_cons_of_mem s hr)

theorem isFolderPath_childText (kind : ObjectKind) {segments : List (List Char)}
    (hne : segments ≠ []) (hsegments : ∀ s ∈ segments, IsSegment s) :
    isFolderPath ("/" ++ childText kind segments) = decide (kind = .folder) := by
  have hrooted := cons_joinSegments hne
  cases kind with
  | file =>
    have hlast := getLast?_rootedPath hne hsegments
    rw [← hrooted] at hlast
    simp [isFolderPath, childText, hlast]
  | folder =>
    have hlast : ('/' :: (joinSegments segments ++ ['/'])).getLast? = some '/' := by
      rw [← List.cons_append, List.getLast?_concat]
    simp [isFolderPath, childText, hlast]

namespace Gateway

variable {g : Gateway} {ctx : RequestContext} {input : GetInput} {key : String}
  {t : Conversation GatewayInterface}

/-- The start of all keys is a folder itself, since a slash is put behind it. -/
theorem isFolderPath_rootPrefix (g : Gateway) : isFolderPath g.rootPrefix = true := by
  unfold rootPrefix BucketConfig.rootPrefix
  split
  · next h => exact h
  · simp [isFolderPath]

/-- The key of a path names a folder exactly where the path does. -/
theorem isFolderPath_startKey (g : Gateway) (path : String) :
    isFolderPath (g.startKey path) = isFolderPath path := by
  rw [startKey, isFolderPath_append g.isFolderPath_rootPrefix, isFolderPath_dropLeadingSlash]

theorem objectKey_of_no_rules (hrules : g.target.rules = []) (text : String) :
    g.objectKey ctx ("/" ++ text) = .ok (g.rootPrefix ++ text) := by
  rw [objectKey_eq_startKey hrules, startKey, dropLeadingSlash_slash]

/-- The only call of the store in a read of a file that is answered by its object. -/
theorem storeCalls_of_file (h : (g.read ctx .get input).Runs t ())
    (hkey : g.objectKey ctx input.requestPath = .ok key)
    (hfile : isFolderPath input.requestPath = false)
    (hsigned : g.getConfig.redirectToSignedUrl = false) :
    ∃ reply, t.storeCalls = [⟨.get key input.conditions, reply⟩] := by
  rcases read_runs_of_file h hkey hfile hsigned with
    ⟨f, rfl⟩ | ⟨output, info, f, rfl⟩ | ⟨output, info, rfl⟩
  · exact ⟨_, rfl⟩
  · exact ⟨_, rfl⟩
  · exact ⟨_, rfl⟩

/-- The only call of the store in a read of a folder that is answered by its listing. -/
theorem storeCalls_of_folder (h : (g.read ctx .get input).Runs t ())
    (hkey : g.objectKey ctx input.requestPath = .ok key)
    (hfolder : isFolderPath input.requestPath = true) (hindex : g.indexDocument? = none)
    (hlisting : g.getConfig.disableListing = false) :
    ∃ reply, t.storeCalls = [⟨.list key, reply⟩] := by
  cases ReadRun.of_runs h with
  | unrewritten hfailed => cases hkey.symm.trans hfailed
  | file _ hpath _ => cases hfolder.symm.trans hpath
  | @folder key' t hkey' _ hrun =>
    obtain rfl : key' = key := Except.ok.inj (hkey'.symm.trans hkey)
    have hlisted : ListingRun g ctx .get key' input t := by
      cases hrun with
      | listed _ hlisted => exact hlisted
      | unindexed hsome _ => cases hindex.symm.trans hsome
      | unknown hsome _ => cases hindex.symm.trans hsome
      | indexed hsome _ => cases hindex.symm.trans hsome
    cases hlisted with
    | disabled hdisabled => cases hlisting.symm.trans hdisabled
    | unlisted f => exact ⟨_, rfl⟩
    | listed ds info => exact ⟨_, rfl⟩

end Gateway

/-! ## From entries back to keys -/

theorem notMem_childText (kind : ObjectKind) {segments : List (List Char)} (hne : segments ≠ [])
    (h : ∀ s ∈ segments, '%' ∉ s) : '%' ∉ ("/" ++ childText kind segments).toList := by
  intro hmem
  have hsplit : ("/" ++ childText kind segments).toList =
      '/' :: (childText kind segments).toList := by simp
  rw [hsplit, cons_childText hne, rootedPath, List.mem_flatMap] at hmem
  obtain ⟨s, hs, hmem⟩ := hmem
  have hin : '%' ∈ s := by simpa using hmem
  rcases List.mem_append.1 hs with hs | hs
  · exact h s hs hin
  · cases kind <;> simp_all

/-- Without rules, a listing leads back to what it lists.  Whatever lies below the start of the keys
of a target, through segments that stand for themselves, has the path of the mount and those
segments; and where this path is routed to that mount of that target, the path below the mount is
read by one call of the store, which names the key that was listed. -/
theorem entries_lead_back {g : Gateway} {mount segments : List (List Char)} {ds : List Descriptor}
    {i : Nat} {d : Descriptor} (hrules : g.target.rules = []) (hmount : ∀ s ∈ mount, IsSegment s)
    (hd : ds[i]? = some d) (hne : segments ≠ [])
    (hsegments : ∀ s ∈ segments, IsSegment s ∧ '%' ∉ s)
    (hkey : d.key = g.rootPrefix ++ childText d.kind segments) :
    ∃ e, (g.entries (mountText mount) ds)[i]? = some e ∧ e.key = d.key ∧
      e.path = mountText mount ++ childText d.kind segments ∧
      ∀ (targets : List Target) (host : Option String) (raw : String),
        route (fun t : Target => t.config.mount) targets host e.path =
            some ⟨g.target, mountText mount, raw⟩ →
          ∃ path, Http.decodePath raw = .ok path ∧
            ∀ ctx conditions t, (g.read ctx .get ⟨path, conditions⟩).Runs t () →
              (d.kind = .file → g.getConfig.redirectToSignedUrl = false →
                ∃ reply, t.storeCalls = [⟨.get d.key conditions, reply⟩]) ∧
              (d.kind = .folder → g.indexDocument? = none → g.getConfig.disableListing = false →
                ∃ reply, t.storeCalls = [⟨.list d.key, reply⟩]) := by
  have hplain : ∀ s ∈ segments, IsSegment s := fun s hs => (hsegments s hs).1
  have hpath := Gateway.entryPath_mountText hmount hne hplain hkey
  refine ⟨_, by rw [Gateway.entries, List.getElem?_map, hd]; rfl, rfl, hpath, ?_⟩
  intro targets host raw hroute
  obtain rfl : raw = "/" ++ childText d.kind segments := by
    have hraw := route_rawPath hroute
    simp only [hpath] at hraw
    rw [drop_mountText] at hraw
    simpa [String.ofList_cons] using hraw
  -- No segment holds an escape, so that the path is decoded to itself.
  have hdecode := Http.decodePath_eq_self
    (notMem_childText d.kind hne fun s hs => (hsegments s hs).2)
  refine ⟨_, hdecode, fun ctx conditions t hruns => ?_⟩
  have hread : g.objectKey ctx ("/" ++ childText d.kind segments) = .ok d.key := by
    rw [hkey]
    exact Gateway.objectKey_of_no_rules hrules _
  have hfolder := isFolderPath_childText d.kind hne hplain
  constructor
  · intro hkind hsigned
    exact Gateway.storeCalls_of_file hruns hread (by rw [hfolder, hkind]; rfl) hsigned
  · intro hkind hindex hlisting
    exact Gateway.storeCalls_of_folder hruns hread (by rw [hfolder, hkind]; rfl) hindex hlisting

/-- A folder below a prefix of the bucket, listed below the longer of two mounts. -/
theorem entries_lead_back_docs :
    let config := (Gateway.docs [] ⟨none, none, none⟩).target.config
    let target : Target :=
      { config := { config with
          mount := ⟨none, ["/", "/a b/"]⟩, bucket := { config.bucket with keyPrefix := "data" } }
        rules := []
        helpers := "" }
    let g : Gateway := ⟨target, .standard⟩
    let d : Descriptor := ⟨.folder, "data/x/y#/", "y#/", "", 0, none⟩
    (g.entries "/a b/" [d]).map (·.path) = ["/a b/x/y#/"] ∧
      route (fun t : Target => t.config.mount) [target] none "/a b/x/y#/" =
        some ⟨target, "/a b/", "/x/y#/"⟩ ∧
      ∃ path, Http.decodePath "/x/y#/" = .ok path ∧
        ∀ ctx conditions t, (g.read ctx .get ⟨path, conditions⟩).Runs t () →
          ∃ reply, t.storeCalls = [⟨.list "data/x/y#/", reply⟩] := by
  intro config target g d
  have hplain : ∀ s ∈ ["a b".toList], IsSegment s := by decide
  have hmount : mountText ["a b".toList] = "/a b/" := by decide +kernel
  have hkey : d.key = g.rootPrefix ++ childText d.kind ["x".toList, "y#".toList] := by
    decide +kernel
  have hroute : route (fun t : Target => t.config.mount) [target] none "/a b/x/y#/" =
      some ⟨target, "/a b/", "/x/y#/"⟩ := by
    simp [route, target, Mount.acceptsHost?, Mount.candidates, Candidate.best, Candidate.choose,
      Candidate.better]
  have hpaths : (g.entries "/a b/" [d]).map (·.path) = ["/a b/x/y#/"] := by decide +kernel
  have hsegments : ∀ s ∈ ["x".toList, "y#".toList], IsSegment s ∧ '%' ∉ s := by decide
  have hd : [d][0]? = some d := rfl
  obtain ⟨e, -, -, hpath, hback⟩ := entries_lead_back (g := g) rfl
    hplain hd (List.cons_ne_nil _ _) hsegments hkey
  have hsame : e.path = "/a b/x/y#/" := by
    rw [hpath]
    decide +kernel
  rw [hsame, hmount] at hback
  obtain ⟨path, hdecode, hread⟩ := hback [target] none "/x/y#/" hroute
  exact ⟨hpaths, hroute, path, hdecode, fun ctx conditions t h =>
    (hread ctx conditions t h).2 rfl rfl rfl⟩

end ObjectGateway
