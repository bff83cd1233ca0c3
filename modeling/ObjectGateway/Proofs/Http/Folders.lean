import ObjectGateway.Proofs.Http.Paths
import ObjectGateway.Proofs.Http.Redirects
import ObjectGateway.Proofs.Http.Responses
import ObjectGateway.Proofs.Routing
import ObjectGateway.Proofs.Text.Split

/-!
# Redirects to folders

Where no file was found, a request may be redirected to its own path as a folder.  The location has
the path of the request with a slash behind it, and the query of the request.  Whatever a mount cuts
off and whatever is escaped, a path that ends with a slash is decoded to one that does, and this is
not redirected to a folder: `folder_redirect_ends`.
-/

namespace ObjectGateway.Http

open ObjectGateway.Flow
open Exchange (called answered)

/-! ## Addresses -/

namespace Uri

variable {path : String} {query : Option String} {target : String}

theorem hash_notMem_dropFragment (cs : List Char) : '#' ∉ dropFragment cs := by
  intro h
  simpa using List.mem_takeWhile_imp h

theorem hash_notMem_ofText (target : String) :
    '#' ∉ (ofText target).pathAndQuery.toList := by
  unfold ofText
  dsimp only
  split
  · simpa using hash_notMem_dropFragment _
  · split
    · simpa using hash_notMem_dropFragment _
    · simp

/-- What stands before the query of an address. -/
def beforeQuery (u : Uri) : String := String.ofList (u.pathAndQuery.toList.takeWhile (· ≠ '?'))

theorem mark_notMem_beforeQuery (u : Uri) : '?' ∉ u.beforeQuery.toList := by
  intro h
  rw [beforeQuery, String.toList_ofList] at h
  simpa using List.mem_takeWhile_imp h

theorem pathAndQuery_eq (u : Uri) :
    u.pathAndQuery = u.beforeQuery ++ u.query?.elim "" ("?" ++ ·) := by
  rw [← String.toList_inj]
  unfold query? beforeQuery
  cases hsplit : Text.splitOnce '?' u.pathAndQuery.toList with
  | none =>
    have hmark := Text.splitOnce_eq_none_iff.1 hsplit
    rw [List.takeWhile_eq_self_iff.2 (Text.decide_ne_of_notMem hmark)]
    simp
  | some parts =>
    obtain ⟨before, after⟩ := parts
    obtain ⟨hparts, hbefore⟩ := Text.splitOnce_eq_some_iff.1 hsplit
    rw [hparts, List.takeWhile_append_of_pos (Text.decide_ne_of_notMem hbefore)]
    simp [String.toList_append]

/-- A path without a question mark and a query are told apart. -/
theorem beforeQuery_of_eq {u : Uri} (hmark : '?' ∉ path.toList)
    (h : u.pathAndQuery = path ++ query.elim "" ("?" ++ ·)) :
    u.beforeQuery = path ∧ u.query? = query := by
  rw [← String.toList_inj]
  unfold beforeQuery query?
  rw [h, String.toList_append, String.toList_ofList,
    List.takeWhile_append_of_pos (Text.decide_ne_of_notMem hmark)]
  cases query with
  | none => simp [Text.splitOnce_eq_none hmark]
  | some q => simp [String.toList_append, Text.splitOnce_append hmark]

/-- The path is what stands before the query; with nothing there, it is a slash, or empty where
nothing else follows the host. -/
theorem path_eq (u : Uri) :
    u.path = if u.beforeQuery = "" then
      (if u.pathAndQuery.isEmpty && !u.hasScheme then "" else "/") else u.beforeQuery := by
  have hempty : u.beforeQuery = "" ↔ u.pathAndQuery.toList.takeWhile (· ≠ '?') = [] := by
    rw [beforeQuery, ← String.toList_inj, String.toList_ofList, String.toList_empty]
  cases hcs : u.pathAndQuery.toList.takeWhile (· ≠ '?') with
  | nil =>
    rw [if_pos (hempty.2 hcs), path, hcs]
  | cons c cs =>
    have hne : u.pathAndQuery.isEmpty = false := by
      rw [← Bool.not_eq_true, String.isEmpty_iff]
      intro h
      simp [h] at hcs
    rw [if_neg (by rw [hempty, hcs]; simp), path, hne, hcs, beforeQuery, hcs]
    simp

theorem ofText_of_rooted (hrooted : target.toList.head? = some '/') (hhash : '#' ∉ target.toList) :
    ofText target = ⟨"", false, target⟩ := by
  have hfragment : dropFragment target.toList = target.toList :=
    List.takeWhile_eq_self_iff.2 (Text.decide_ne_of_notMem hhash)
  simp [ofText, hrooted, hfragment]

/-- Only an address that is nothing but a host has one without a scheme. -/
theorem ofText_authority (hpath : (ofText target).pathAndQuery ≠ "")
    (hscheme : (ofText target).hasScheme = false) : (ofText target).authority = "" := by
  unfold ofText at hpath hscheme ⊢
  by_cases hrooted : target.toList.head? = some '/' ∨ target = "*"
  · simp [hrooted]
  · cases hafter : afterScheme? target.toList with
    | none => simp [hrooted, hafter] at hpath
    | some rest => simp [hrooted, hafter] at hscheme

/-- A path that is more than a slash stands at the start of the address, before the query. -/
theorem ofText_of_path (hrooted : (ofText target).path.toList.head? = some '/')
    (hfile : (ofText target).path.toList.getLast? ≠ some '/') :
    (ofText target).path = (ofText target).beforeQuery ∧
      (ofText target).url = (ofText target).pathAndQuery := by
  have hpath : (ofText target).path = (ofText target).beforeQuery := by
    rw [path_eq] at hrooted hfile ⊢
    split_ifs at hrooted hfile ⊢ <;> simp_all
  have hhead : (ofText target).pathAndQuery.toList.head? = some '/' := by
    rw [pathAndQuery_eq, String.toList_append, ← hpath, List.head?_append, hrooted]
    rfl
  obtain ⟨cs, hcs⟩ := List.head?_eq_some_iff.1 hhead
  have hnonempty : (ofText target).pathAndQuery ≠ "" := by
    intro h
    simp [h] at hcs
  refine ⟨hpath, ?_⟩
  cases hscheme : (ofText target).hasScheme with
  | false => simp [url, hscheme, ofText_authority hnonempty hscheme, hcs]
  | true => simp [url, hscheme, hcs]

/-- An address of a path and a query is read as these. -/
theorem ofText_path_query (h : target = path ++ query.elim "" ("?" ++ ·))
    (hrooted : path.toList.head? = some '/') (hmark : '?' ∉ path.toList)
    (hhash : '#' ∉ target.toList) :
    (ofText target).path = path ∧ (ofText target).query? = query := by
  have hhead : target.toList.head? = some '/' := by
    rw [h, String.toList_append, List.head?_append, hrooted]
    rfl
  have hnonempty : path ≠ "" := by
    rintro rfl
    simp at hrooted
  have huri : (ofText target).pathAndQuery = path ++ query.elim "" ("?" ++ ·) := by
    rw [ofText_of_rooted hhead hhash, h]
  obtain ⟨hbefore, hquery⟩ := beforeQuery_of_eq hmark huri
  exact ⟨by rw [path_eq, hbefore, if_neg hnonempty], hquery⟩

/-- With a slash behind its path, an address has this longer path and the same query. -/
theorem ofText_slash {location : String}
    (hrooted : (ofText target).path.toList.head? = some '/')
    (hfile : (ofText target).path.toList.getLast? ≠ some '/')
    (h : location =
      (ofText target).path ++ "/" ++ (ofText target).query?.elim "" ("?" ++ ·)) :
    (ofText location).path = (ofText target).path ++ "/" ∧
      (ofText location).query? = (ofText target).query? := by
  obtain ⟨hpath, -⟩ := ofText_of_path hrooted hfile
  have hmark := (ofText target).mark_notMem_beforeQuery
  have hhash := hash_notMem_ofText target
  rw [pathAndQuery_eq, ← hpath, String.toList_append, List.mem_append, not_or] at hhash
  rw [← hpath] at hmark
  -- The longer path holds no question mark, and nothing in the location begins a fragment.
  refine ofText_path_query h ?_ ?_ ?_
  · rw [String.toList_append, List.head?_append, hrooted]
    rfl
  · simp [String.toList_append, hmark]
  · simp [h, String.toList_append, hhash]

end Uri

/-- A file is redirected to its path with a slash behind it, before the query. -/
theorem folderLocation_eq {target method : String} {headers : Headers}
    (hrooted : (Uri.ofText target).path.toList.head? = some '/')
    (hfile : (Uri.ofText target).path.toList.getLast? ≠ some '/') :
    folderLocation (requestInfo method (.ofText target) headers) =
      (Uri.ofText target).path ++ "/" ++ (Uri.ofText target).query?.elim "" ("?" ++ ·) := by
  have hurl := (Uri.ofText_of_path hrooted hfile).2
  simp only [folderLocation, requestInfo, hrooted, hfile, if_true, if_false, hurl, Uri.query?]
  cases Text.splitOnce '?' (Uri.ofText target).pathAndQuery.toList with
  | none => simp
  | some parts =>
    rw [← String.toList_inj]
    simp [String.toList_append]

/-! ## Paths below mounts -/

/-- A mount cuts off no slash at the end of a path. -/
theorem rawPath_trailing_slash {targets : List Target} {host : Option String} {path : String}
    {r : Route Target} (h : route (fun t : Target => t.config.mount) targets host path = some r)
    (hpath : path.toList.getLast? = some '/') : ∃ before : String, r.rawPath = before ++ "/" := by
  obtain ⟨start, hstart⟩ := List.getLast?_eq_some_iff.1 hpath
  have hle : r.mountPath.toList.length - 1 ≤ start.length := by
    have hlength := (bestMatch_of_route h).isMatch.below.length_le
    rw [hstart, List.length_append, List.length_singleton] at hlength
    omega
  refine ⟨String.ofList (start.drop (r.mountPath.toList.length - 1)), ?_⟩
  rw [route_rawPath h, hstart, List.drop_append_of_le_length hle, ← String.toList_inj]
  simp

theorem isFolderPath_slash (text : String) : isFolderPath (text ++ "/") = true := by
  simp [isFolderPath, String.toList_append]

namespace Service

variable {s : Setup} {snapshot : Snapshot} {request : Request} {route : Route Target}
  {u : Conversation GatewayInterface} {t : Conversation ServiceInterface} {response : Response}

theorem Performed.folder {g : Gateway} {ctx : RequestContext} {path : String}
    (h : Performed g ctx path u) (hanswer : answered .redirectWithTrailingSlash ∈ u) :
    isFolderPath path = false := by
  cases h with
  | write h => exact absurd hanswer (Gateway.write_no_folder h)
  | remove h => exact absurd hanswer (Gateway.remove_no_folder h)
  | read hpath h =>
    rw [← hpath]
    exact Gateway.read_folder h hanswer
  | unread f => simp at hanswer
  | malformed f => simp at hanswer

/-- A request that is redirected to a folder is one for a path that does not name a folder. -/
theorem routed_folder (h : (routed s request route).Runs u ())
    (hanswer : answered .redirectWithTrailingSlash ∈ u) :
    ∃ path, decodePath route.rawPath = .ok path ∧ isFolderPath path = false := by
  cases Served.of_runs h with
  | undecoded f => simp at hanswer
  | @performed path _ hpath h => exact ⟨path, hpath, h.folder hanswer⟩

/-- Whichever target a path with a slash at its end is routed to, it is not redirected to a
folder. -/
theorem routed_no_folder (hroute : routeOf snapshot request = some route)
    (hpath : request.uri.path.toList.getLast? = some '/') (h : (routed s request route).Runs u ()) :
    answered .redirectWithTrailingSlash ∉ u := by
  intro hanswer
  obtain ⟨path, hdecode, hfile⟩ := routed_folder h hanswer
  obtain ⟨before, hbefore⟩ := rawPath_trailing_slash hroute hpath
  -- No escape before the slash can take it in, so the decoded path ends with it too.
  rw [hbefore, decodePath_trailing_slash_iff] at hdecode
  obtain ⟨text, -, rfl⟩ := hdecode
  rw [isFolderPath_slash] at hfile
  cases hfile

theorem answered_unique {o p : Outcome} (hlength : u.answers.length = 1) (ho : answered o ∈ u)
    (hp : answered p ∈ u) : o = p := by
  obtain ⟨a, ha⟩ := List.length_eq_one_iff.1 hlength
  have honly (q : Outcome) (hq : answered q ∈ u) : Recorded.outcome q = a := by
    rw [← List.mem_singleton, ← ha]
    exact List.mem_filterMap.2 ⟨_, hq, rfl⟩
  exact Recorded.outcome.inj ((honly o ho).trans (honly p hp).symm)

/-- A request is redirected to its folder: the gateway of its target has answered it so, and the
response is a redirect. -/
structure FolderRedirect (s : Setup) (snapshot : Snapshot) (request : Request)
    (t : Conversation ServiceInterface) (response : Response) : Prop where
  run : (handle s snapshot request).Runs t response
  status : response.status = 302
  answer : ∃ route u v slot, routeOf snapshot request = some route ∧
    (routed s request route).Runs u () ∧ answered .redirectWithTrailingSlash ∈ u ∧
    Responder.Carries (responder s snapshot request) u [] v slot ∧
    t = v.map (ofTarget route.target.config) ++
      [⟨.count (.answered request.method response.status), ()⟩] ∧
    response = Responder.finish slot

/-- A redirect without a signed address is one to a folder. -/
theorem FolderRedirect.of_unsigned (h : (handle s snapshot request).Runs t response)
    (hstatus : response.status = 302) (hunsigned : signedAddresses t = []) :
    FolderRedirect s snapshot request t response := by
  refine ⟨h, hstatus, ?_⟩
  obtain ⟨t, ht, rfl⟩ := handle_runs_iff.1 h
  rw [signedAddresses_concat] at hunsigned
  obtain ⟨route, u, v, slot, hroute, hu, hcarries, rfl, hfinish, hredirected⟩ :=
    process_redirect_run (process_of_respond ht hstatus) hstatus
  cases hredirected with
  | address hanswer =>
    have hsigned := signed_of_address hu hcarries hanswer
    rw [hunsigned] at hsigned
    cases hsigned
  | folder hanswer => exact ⟨route, u, v, slot, hroute, hu, hanswer, hcarries, rfl, hfinish⟩

/-- The gateway of a target answers once, so a redirect to a folder leads nowhere else. -/
theorem FolderRedirect.response_eq (h : FolderRedirect s snapshot request t response) :
    response = .redirect
      (folderLocation (requestInfo request.method request.uri request.headers)) := by
  obtain ⟨route, u, v, slot, -, hu, hanswer, hcarries, -, rfl⟩ := h.answer
  have hstatus := h.status
  cases slot with
  | nil => cases hstatus
  | cons response rest =>
    rw [Responder.finish_cons] at hstatus ⊢
    rcases hcarries.redirected List.mem_cons_self hstatus with h | h
    · cases h
    · cases h with
      | folder _ => rw [responder_request]
      | address haddress => cases answered_unique (serve_answers_length hu) hanswer haddress

theorem not_folderRedirect (hpath : request.uri.path.toList.getLast? = some '/') :
    ¬FolderRedirect s snapshot request t response := by
  intro h
  obtain ⟨route, u, v, slot, hroute, hu, hanswer, -⟩ := h.answer
  exact routed_no_folder hroute hpath hu hanswer

/-- A routed path begins as the mount does. -/
theorem FolderRedirect.rooted (h : FolderRedirect s snapshot request t response)
    (hmounts : ∀ target ∈ snapshot.targets, ∀ p ∈ target.config.mount.paths,
      Mount.isRooted p = true) : request.uri.path.toList.head? = some '/' := by
  obtain ⟨route, u, v, slot, hroute, -⟩ := h.answer
  have hbest := bestMatch_of_route hroute
  obtain ⟨hhead, -⟩ := Mount.isRooted_iff.1 (hmounts _ hbest.mem _ hbest.isMatch.declared)
  obtain ⟨below, hpath⟩ := hbest.isMatch.below
  rw [← hpath, List.head?_append, hhead]
  rfl

/-- A request that is redirected to its folder is sent to its own path with one slash behind it, and
with its own query.  Whoever asks for this location is not redirected to a folder again, whichever
targets are served then, whatever else the request says and whatever the store replies. -/
theorem folder_redirect_ends {H : Type} {l : Loader H} {c : Config}
    {loading : Conversation BucketsInterface} {target : String} (hvalid : c.validate = .ok ())
    (hload : (l.loadSnapshot c).Runs loading (.ok snapshot)) (huri : request.uri = .ofText target)
    (h : FolderRedirect s snapshot request t response) :
    ∃ location, response = ⟨302, [textHeader "location" location], .empty⟩ ∧
      location = request.uri.path ++ "/" ++ request.uri.query?.elim "" ("?" ++ ·) ∧
      (Uri.ofText location).path = request.uri.path ++ "/" ∧
      (Uri.ofText location).query? = request.uri.query? ∧
      ∀ (s' : Setup) (snapshot' : Snapshot) (later : Request)
        (t' : Conversation ServiceInterface) (response' : Response),
        later.uri = .ofText location → ¬FolderRedirect s' snapshot' later t' response' := by
  have hrooted := h.rooted (mounts_of_loaded hvalid hload)
  -- The path of the request itself does not end with a slash, or it would not be redirected.
  have hfile : request.uri.path.toList.getLast? ≠ some '/' := fun hlast =>
    not_folderRedirect hlast h
  have hresponse := h.response_eq
  have hstatus := h.status
  rw [huri] at hrooted hfile hresponse ⊢
  rw [folderLocation_eq hrooted hfile] at hresponse
  rw [hresponse] at hstatus
  obtain ⟨hlater, hquery⟩ := Uri.ofText_slash hrooted hfile rfl
  refine ⟨_, hresponse.trans (Response.redirect_of_status hstatus), rfl, hlater, hquery, ?_⟩
  intro s' snapshot' later t' response' hagain
  refine not_folderRedirect ?_
  rw [hagain, hlater]
  simp [String.toList_append]

/-- A question for a missing file, whose path ends in an incomplete escape. -/
theorem folder_redirect_ends_docs :
    let get : GetConfig := { GetConfig.standard with redirectWithTrailingSlash := true }
    let target : Target := (Gateway.docs [] ⟨some ⟨true, get⟩, none, none⟩).target
    let c : Config := ⟨.standard, ⟨[], .const none⟩, [target.config]⟩
    let snapshot : Snapshot := ⟨[target], ⟨[], .const none⟩, ""⟩
    let request : Request := ⟨"HEAD", .ofText "/a/b%2?q=1", [], []⟩
    let talk := (handle ⟨.standard, ⟨[]⟩⟩ snapshot request).converse (surroundings nothing) ((), [])
    c.validate = .ok () ∧
      FolderRedirect ⟨.standard, ⟨[]⟩⟩ snapshot request talk.exchanges talk.value ∧
      ∃ location, talk.value = ⟨302, [textHeader "location" location], .empty⟩ ∧
        (Uri.ofText location).path = "/a/b%2/" ∧ (Uri.ofText location).query? = some "q=1" := by
  intro get target c snapshot request talk
  have hvalid : c.validate = .ok () := by decide +kernel
  let l : Loader Unit := ⟨⟨[]⟩, fun _ => .ok (), fun _ => .ok ()⟩
  have hload : (l.loadSnapshot c).Runs [] (.ok snapshot) := .done _
  have hstatus : talk.value.status = 302 := by decide +kernel
  have hunsigned : signedAddresses talk.exchanges = [] := by decide +kernel
  have hfolder : FolderRedirect ⟨.standard, ⟨[]⟩⟩ snapshot request talk.exchanges talk.value :=
    .of_unsigned (converse_runs _ _ _) hstatus hunsigned
  have huri : request.uri = .ofText "/a/b%2?q=1" := rfl
  obtain ⟨location, hvalue, -, hpath, hquery, -⟩ := folder_redirect_ends hvalid hload huri hfolder
  have hbefore : request.uri.path ++ "/" = "/a/b%2/" := by decide +kernel
  have hasked : request.uri.query? = some "q=1" := by decide +kernel
  exact ⟨hvalid, hfolder, location, hvalue, hpath.trans hbefore, hquery.trans hasked⟩

end Service

end ObjectGateway.Http
