import ObjectGateway.Proofs.Gateway.IndexDocuments
import ObjectGateway.Proofs.Http.Failures

/-!
# The keys of stored uploads

An upload that is answered with success has stored one object, at the key of its path, which is made
of the path of the request and the filename in the form.  The filename is taken as it comes, and it
is empty where the form has none.  So the key names a file exactly where the filename does:
`upload_stored_key`.  Without a filename the object is stored at the key of its folder, to which no
path leads that names a file: `upload_stored_at_folder`.
-/

namespace ObjectGateway

open Exchange (called told sent answered)

/-- Nothing is said to the client. -/
def Conversation.Silent (t : Conversation GatewayInterface) : Prop :=
  t.files = [] ∧ t.answers = []

theorem Conversation.Silent.append {t u : Conversation GatewayInterface} (ht : t.Silent)
    (hu : u.Silent) : Conversation.Silent (t ++ u) :=
  ⟨by rw [files, List.filterMap_append, ← files, ← files, ht.1, hu.1, List.append_nil],
    by rw [answers_append, ht.2, hu.2, List.append_nil]⟩

namespace Gateway

open Conversation (Silent)

variable {g : Gateway} {ctx : RequestContext} {path key : String} {input : PutInput}
  {t : Conversation GatewayInterface}

/-! ## Gateways -/

/-- The path of an upload names a file exactly where its filename does. -/
theorem isFolderPath_uploadPath_eq (input : PutInput) :
    isFolderPath (uploadPath input) = isFolderPath input.filename := by
  unfold uploadPath
  dsimp only
  split
  · next hslash => exact isFolderPath_append (isFolderPath_iff.2 (.inr hslash)) _
  · exact isFolderPath_append (isFolderPath_iff.2 (.inr (by simp))) _

/-- So does the key of this path. -/
theorem isFolderPath_storedKey (g : Gateway) (input : PutInput) :
    isFolderPath (g.startKey (uploadPath input)) = isFolderPath input.filename := by
  rw [isFolderPath_startKey, isFolderPath_uploadPath_eq]

/-- A removal of a file calls the store about its key alone. -/
theorem storeCalls_of_remove (h : (g.remove ctx path).Runs t ())
    (hkey : g.objectKey ctx path = .ok key) (hfile : isFolderPath path = false) :
    ∃ reply, t.storeCalls = [⟨.delete key, reply⟩] := by
  cases remove_runs_iff.1 h with
  | unrewritten hfailed => cases hkey.symm.trans hfailed
  | folder _ hpath => cases hfile.symm.trans hpath
  | unremoved hkey' _ =>
    obtain rfl := Except.ok.inj (hkey'.symm.trans hkey)
    exact ⟨_, rfl⟩
  | removed hkey' _ =>
    obtain rfl := Except.ok.inj (hkey'.symm.trans hkey)
    exact ⟨_, rfl⟩

/-- A removal of a folder is refused, and the store is not called. -/
theorem remove_of_folder (h : (g.remove ctx path).Runs t ())
    (hkey : g.objectKey ctx path = .ok key) (hfolder : isFolderPath path = true) :
    t = [answered (.badRequest .removalFolder)] := by
  cases remove_runs_iff.1 h with
  | unrewritten hfailed => cases hkey.symm.trans hfailed
  | folder _ _ => rfl
  | unremoved _ hpath => cases hfolder.symm.trans hpath
  | removed _ hpath => cases hfolder.symm.trans hpath

theorem silent_absenceCheck (g : Gateway) (key : String) : Silent (g.absenceCheck key) := by
  unfold absenceCheck
  split
  · exact ⟨rfl, rfl⟩
  · exact ⟨rfl, rfl⟩

theorem storeCalls_absenceCheck (g : Gateway) (key : String) :
    ∀ e ∈ (g.absenceCheck key).storeCalls, e.op = .head key := by
  unfold absenceCheck
  split <;> simp

/-- How a write ends: its last exchange is its answer, which is that of a failure or tells of the
object that it has stored. -/
inductive WriteEnd (g : Gateway) (ctx : RequestContext) (input : PutInput) :
    Conversation GatewayInterface → Outcome → Prop
  | failed (t : Conversation GatewayInterface) (f : Failure) :
      WriteEnd g ctx input t (failureOutcome f)
  | stored {t : Conversation GatewayInterface} {key : String} {r : PutRequest} {info : ResultInfo}
      (hkey : g.objectKey ctx (uploadPath input) = .ok key)
      (hrequest : g.uploadRequest ctx input key = .ok r)
      (hcalls : t.storeCalls = (g.absenceCheck key).storeCalls ++ [⟨.put r, .ok info⟩]) :
      WriteEnd g ctx input t (.stored (putEcho input r))

theorem WriteRun.writeEnd (h : WriteRun g ctx input t) :
    ∃ before o, t = before ++ [answered o] ∧ Silent before ∧ WriteEnd g ctx input before o := by
  cases h with
  | @unrewritten f _ => exact ⟨[], _, rfl, ⟨rfl, rfl⟩, .failed [] f⟩
  | @unrendered _ f _ _ => exact ⟨[], _, rfl, ⟨rfl, rfl⟩, .failed [] f⟩
  | @occupied key _ _ _ _ _ =>
    exact ⟨[_], _, rfl, ⟨rfl, rfl⟩, .failed _ (.objectExists key)⟩
  | @unknown _ _ f _ _ _ _ => exact ⟨[_], _, rfl, ⟨rfl, rfl⟩, .failed _ f⟩
  | @unstored key r f _ _ =>
    exact ⟨g.absenceCheck key ++ [called (.put r) (.error f)], _, by simp,
      (g.silent_absenceCheck key).append ⟨rfl, rfl⟩, .failed _ f⟩
  | @stored key r info hkey hrequest =>
    have hcalls : Conversation.storeCalls (g.absenceCheck key ++
        [called (.put r) (.ok info), told (g.putEvent input info)]) =
          (g.absenceCheck key).storeCalls ++ [⟨.put r, .ok info⟩] :=
      Conversation.storeCalls_append _ _
    exact ⟨_, _, by simp, (g.silent_absenceCheck key).append ⟨rfl, rfl⟩,
      .stored hkey hrequest hcalls⟩

end Gateway

namespace Http

open ObjectGateway.Flow

/-! ## Responses -/

/-- Where only the last exchange of a gateway is an answer, the response is made of it. -/
theorem Service.carries_of_silent {r : Responder} {before : Conversation GatewayInterface}
    {o : Outcome} {v : Conversation TargetInterface} {last : Responder.Slot}
    (h : Responder.Carries r (before ++ [answered o]) [] v last) (hsilent : before.Silent)
    (config : TargetConfig) :
    ∃ calls response, last = [response] ∧ r.OutcomeMade o calls response ∧
      storeCalls (v.map (ofTarget config)) = before.storeCalls ++ calls := by
  induction before generalizing v with
  | nil =>
    obtain ⟨calls, response, rfl, rfl, -, hmade⟩ := h.of_answered
    exact ⟨calls, response, rfl, hmade, storeCalls_ofTarget config calls⟩
  | cons e before ih =>
    obtain ⟨hfiles, hanswers⟩ := hsilent
    cases h with
    | cons hfirst hrest =>
      cases hfirst with
      | store c reply =>
        obtain ⟨calls, response, rfl, hmade, hcalls⟩ := ih hrest ⟨hfiles, hanswers⟩
        exact ⟨calls, response, rfl, hmade, congrArg (_ :: ·) hcalls⟩
      | dispatch event =>
        obtain ⟨calls, response, rfl, hmade, hcalls⟩ := ih hrest ⟨hfiles, hanswers⟩
        exact ⟨calls, response, rfl, hmade, hcalls⟩
      | sent _ => cases hfiles
      | refused _ => cases hfiles
      | answered _ _ => cases hanswers

/-- A page of a failure does not tell of success. -/
theorem Responder.status_ne_of_page {r : Responder} {o : Outcome} {page : Page} {values : Json}
    {calls : Conversation StoreInterface} {response : Response}
    (h : r.OutcomeMade o calls response) (hpage : r.outcomePage? o = some (page, values))
    (hplain : r.plainResponse? o = none) (hstatus : page.status ≠ 200) : response.status ≠ 200 := by
  rcases (Service.outcomeMade_page h hpage hplain).status with hresponse | hresponse
  · rwa [hresponse]
  · omega

theorem Responder.status_ne_of_failureOutcome {r : Responder} {f : Failure}
    {calls : Conversation StoreInterface} {response : Response}
    (h : r.OutcomeMade (Gateway.failureOutcome f) calls response) : response.status ≠ 200 := by
  cases f <;> exact status_ne_of_page h rfl rfl (by decide)

namespace Service

variable {s : Setup} {snapshot : Snapshot} {request : Request} {route : Route Target}
  {t : Conversation ServiceInterface} {response : Response}

/-! ## Uploads -/

/-- An upload that is answered with success has been read, and an object has been stored. -/
theorem stored_of_ok (h : (handle s snapshot request).Runs t response)
    (hmethod : request.method = "PUT") (hroute : routeOf snapshot request = some route)
    (hstatus : response.status = 200) :
    ∃ path input key r info, decodePath route.rawPath = .ok path ∧
      (do readPutInput path request.headers (← readBody request.body)) = .ok input ∧
      (gatewayOf s route).objectKey (contextOf request route) (Gateway.uploadPath input) = .ok key ∧
      (gatewayOf s route).uploadRequest (contextOf request route) input key = .ok r ∧
      storeCalls t =
        ((gatewayOf s route).absenceCheck key).storeCalls ++ [⟨.put r, .ok info⟩] := by
  have hprobe : isProbe request = false := by simp [isProbe, hmethod]
  obtain ⟨t, hrespond, rfl⟩ := handle_runs_iff.1 h
  rw [respond_of_not_isProbe hprobe] at hrespond
  cases ProcessRun.of_runs hrespond with
  | unrouted hnone _ => cases hnone.symm.trans hroute
  | refused _ _ => cases hstatus
  | @routed route' u v slot hroute' _ hu hcarries =>
    obtain rfl : route' = route := Option.some.inj (hroute'.symm.trans hroute)
    -- A path or an upload that cannot be read is answered as a failure.
    have hread (f : Failure) : u ≠ [answered (.internalServerError f)] := by
      rintro rfl
      obtain ⟨calls, response, -, rfl, -, hmade⟩ := hcarries.of_answered
      exact Responder.status_ne_of_page hmade rfl rfl (by decide) hstatus
    cases hpath : decodePath route'.rawPath with
    | error f =>
      refine absurd ?_ (hread f)
      simpa [Service.routed, serve, hpath] using hu
    | ok path =>
      cases hinput : (do readPutInput path request.headers (← readBody request.body) :
          Answer PutInput) with
      | error f =>
        refine absurd ?_ (hread f)
        simpa [Service.routed, serve, hpath, perform, hmethod, hinput] using hu
      | ok input =>
        have hrouted : Service.routed s request route' =
            (gatewayOf s route').write (contextOf request route') input := by
          simp [Service.routed, serve, hpath, perform, hmethod, hinput, gatewayOf, contextOf]
        rw [hrouted] at hu
        obtain ⟨before, o, rfl, hsilent, hend⟩ := (Gateway.write_runs_iff.1 hu).writeEnd
        obtain ⟨calls, response, rfl, hmade, hcalls⟩ :=
          carries_of_silent hcarries hsilent route'.target.config
        cases hend with
        | failed f => exact absurd hstatus (Responder.status_ne_of_failureOutcome hmade)
        | @stored key r info hkey hrequest hstored =>
          refine ⟨path, input, key, r, info, rfl, hinput, hkey, hrequest, ?_⟩
          rcases hmade with ⟨page, values, ⟨⟩, -⟩ | ⟨rfl, -⟩
          rw [storeCalls_counted, hcalls, hstored, List.append_nil]

/-- An upload that has been stored, below a target without rules. -/
structure StoredUpload (g : Gateway) (input : PutInput) (t : Conversation ServiceInterface) :
    Prop where
  /-- The content is stored at the key of the path of the upload, and before this the store is asked
  for this key at most. -/
  stored : ∃ asked r info, storeCalls t = asked ++ [⟨.put r, .ok info⟩] ∧
    r.key = g.startKey (Gateway.uploadPath input) ∧ r.body = input.body ∧
    ∀ e ∈ asked, e.op = .head r.key
  /-- The key is that of a file exactly where the filename is one. -/
  file_iff : isFolderPath (g.startKey (Gateway.uploadPath input)) = false ↔
    input.filename ≠ "" ∧ input.filename.toList.getLast? ≠ some '/'
  /-- Then the path of the upload is one of a file: a read of it calls the store about the key alone,
  and so does a removal. -/
  file : input.filename ≠ "" → input.filename.toList.getLast? ≠ some '/' →
    isFolderPath (Gateway.uploadPath input) = false ∧
      ∀ ctx u,
        (∀ mode conditions, (g.read ctx mode ⟨Gateway.uploadPath input, conditions⟩).Runs u () →
          u.storeCalls ≠ [] ∧
            ∀ e ∈ u.storeCalls, e.op.key = g.startKey (Gateway.uploadPath input)) ∧
        ((g.remove ctx (Gateway.uploadPath input)).Runs u () →
          ∃ reply, u.storeCalls = [⟨.delete (g.startKey (Gateway.uploadPath input)), reply⟩])
  /-- Otherwise every path that leads to the key is one of a folder, and its removal is refused. -/
  folder : (input.filename = "" ∨ input.filename.toList.getLast? = some '/') →
    ∀ path, g.startKey path = g.startKey (Gateway.uploadPath input) → isFolderPath path = true ∧
      ∀ ctx u, (g.remove ctx path).Runs u () → u = [answered (.badRequest .removalFolder)]

/-- Where an upload is stored.  Below a target without rules, a `PUT` that is answered with 200 has
stored one object, at the key of the path that the filename of the form makes of the path of the
request.  This is the key of a file, which is read and removed by its path, exactly where the
filename is not empty and does not end in a slash. -/
theorem upload_stored_key (h : (handle s snapshot request).Runs t response)
    (hmethod : request.method = "PUT") (hroute : routeOf snapshot request = some route)
    (hrules : route.target.rules = []) (hstatus : response.status = 200) :
    ∃ path input, decodePath route.rawPath = .ok path ∧
      (do readPutInput path request.headers (← readBody request.body)) = .ok input ∧
      StoredUpload (gatewayOf s route) input t := by
  obtain ⟨path, input, key, r, info, hpath, hinput, hkey, hrequest, hcalls⟩ :=
    stored_of_ok h hmethod hroute hstatus
  refine ⟨path, input, hpath, hinput, ?_⟩
  generalize hg : gatewayOf s route = g at *
  have hrules : g.target.rules = [] := by rwa [← hg]
  have hstart (ctx : RequestContext) (path : String) := Gateway.objectKey_eq_startKey hrules ctx path
  obtain rfl : g.startKey (Gateway.uploadPath input) = key :=
    Except.ok.inj ((hstart _ _).symm.trans hkey)
  obtain ⟨hrkey, hbody⟩ := Gateway.uploadRequest_key_body hrequest
  constructor
  · refine ⟨_, r, info, hcalls, hrkey, hbody, fun e he => ?_⟩
    rw [hrkey]
    exact g.storeCalls_absenceCheck _ e he
  · rw [g.isFolderPath_storedKey, isFolderPath_eq_false_iff]
  · intro hne hlast
    have huploaded : isFolderPath (Gateway.uploadPath input) = false := by
      rw [Gateway.isFolderPath_uploadPath_eq]
      exact isFolderPath_eq_false_iff.2 ⟨hne, hlast⟩
    exact ⟨huploaded, fun ctx u => ⟨fun mode conditions hread =>
      Gateway.storeCalls_key_of_file hread (hstart ctx _) huploaded, fun hremove =>
      Gateway.storeCalls_of_remove hremove (hstart ctx _) huploaded⟩⟩
  · intro hends path hsame
    have hfolder : isFolderPath path = true := by
      rw [← g.isFolderPath_startKey, hsame, g.isFolderPath_storedKey]
      exact isFolderPath_iff.2 hends
    exact ⟨hfolder, fun ctx u hremove => Gateway.remove_of_folder hremove (hstart ctx path) hfolder⟩

/-- A target for uploads to the bucket `docs`. -/
def uploads : Target := (Gateway.docs [] ⟨none, some ⟨true, none⟩, none⟩).target

/-- An upload of a form with one part to the folder `/a/`; the end of a line is a line break. -/
def uploadOf (disposition : String) : Request :=
  ⟨"PUT", .ofText "/a/", [textHeader "content-type" "multipart/form-data; boundary=XX"],
    [.data (Text.Utf8.encode ("--XX\r\n" ++ disposition ++ "\r\n\r\nhi\r\n--XX--\r\n"))]⟩

theorem routeOf_uploadOf (disposition : String) :
    routeOf ⟨[uploads], ⟨[], .const none⟩, ""⟩ (uploadOf disposition) =
      some ⟨uploads, "/", "/a/"⟩ := by
  have hhost : uploads.config.mount.acceptsHost? (routingHost (uploadOf disposition)) =
      some false := rfl
  have hpath : (uploadOf disposition).uri.path = "/a/" := by
    show (Uri.ofText "/a/").path = "/a/"
    decide +kernel
  have hpaths : uploads.config.mount.paths = ["/"] := rfl
  simp [routeOf, route, Mount.candidates, hhost, hpath, hpaths, Candidate.best, Candidate.choose]

/-- An upload of a file whose name has a slash in it. -/
theorem upload_stored_key_docs :
    let request := uploadOf "Content-Disposition: form-data; name=\"file\"; filename=\"b/c d\""
    let snapshot : Snapshot := ⟨[uploads], ⟨[], .const none⟩, ""⟩
    let talk := (handle ⟨.standard, ⟨[]⟩⟩ snapshot request).converse (surroundings MemoryStore.reply)
      (MemoryStore.ofObjects [], [])
    talk.value.status = 200 ∧
      StoredUpload ⟨uploads, .standard⟩ ⟨"/a/", "b/c d", "", 2, [104, 105]⟩ talk.exchanges := by
  intro request snapshot talk
  have hstatus : talk.value.status = 200 := by decide +kernel
  have hread : (do readPutInput "/a/" request.headers (← readBody request.body)) =
      .ok (⟨"/a/", "b/c d", "", 2, [104, 105]⟩ : PutInput) := by decide +kernel
  have hdecode : decodePath "/a/" = .ok "/a/" := by decide +kernel
  have hrun : (handle ⟨.standard, ⟨[]⟩⟩ snapshot request).Runs talk.exchanges talk.value :=
    converse_runs _ _ _
  obtain ⟨path, input, hpath, hinput, hstored⟩ :=
    upload_stored_key hrun rfl (routeOf_uploadOf _) rfl hstatus
  obtain rfl : "/a/" = path := Except.ok.inj (hdecode.symm.trans hpath)
  obtain rfl := Except.ok.inj (hread.symm.trans hinput)
  exact ⟨hstatus, hstored⟩

/-- An upload without a filename is stored at the key of its folder. -/
theorem upload_stored_at_folder :
    ¬∀ (s : Setup) (snapshot : Snapshot) (request : Request) (route : Route Target)
      (t : Conversation ServiceInterface) (response : Response) (r : PutRequest) (info : ResultInfo),
      (handle s snapshot request).Runs t response → request.method = "PUT" →
      routeOf snapshot request = some route → route.target.rules = [] → response.status = 200 →
      ⟨.put r, .ok info⟩ ∈ storeCalls t → r.key ≠ "" ∧ r.key.toList.getLast? ≠ some '/' := by
  intro hall
  let request := uploadOf "Content-Disposition: form-data; name=\"file\""
  let snapshot : Snapshot := ⟨[uploads], ⟨[], .const none⟩, ""⟩
  let talk := (handle ⟨.standard, ⟨[]⟩⟩ snapshot request).converse (surroundings MemoryStore.reply)
    (MemoryStore.ofObjects [], [])
  have hstatus : talk.value.status = 200 := by decide +kernel
  have hread : (do readPutInput "/a/" request.headers (← readBody request.body)) =
      .ok (⟨"/a/", "", "", 2, [104, 105]⟩ : PutInput) := by decide +kernel
  have hdecode : decodePath "/a/" = .ok "/a/" := by decide +kernel
  have hrun : (handle ⟨.standard, ⟨[]⟩⟩ snapshot request).Runs talk.exchanges talk.value :=
    converse_runs _ _ _
  obtain ⟨path, input, key, r, info, hpath, hinput, hkey, hrequest, hcalls⟩ :=
    stored_of_ok hrun rfl (routeOf_uploadOf _) hstatus
  obtain rfl : "/a/" = path := Except.ok.inj (hdecode.symm.trans hpath)
  obtain rfl := Except.ok.inj (hread.symm.trans hinput)
  have hfolder : r.key = "a/" := by
    rw [(Gateway.uploadRequest_key_body hrequest).1]
    exact Except.ok.inj (hkey.symm.trans (Gateway.objectKey_eq_startKey rfl _ _))
  have hmem : (⟨.put r, .ok info⟩ : Exchange StoreInterface) ∈ storeCalls talk.exchanges := by
    rw [hcalls]
    exact List.mem_append_right _ List.mem_cons_self
  have hfile := (hall _ _ _ _ _ _ r info hrun rfl (routeOf_uploadOf _) rfl hstatus hmem).2
  rw [hfolder] at hfile
  exact absurd hfile (by decide)

end Service

end Http

end ObjectGateway
