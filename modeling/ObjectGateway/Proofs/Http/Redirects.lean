import ObjectGateway.Proofs.Gateway.Redirects
import ObjectGateway.Proofs.Http.Exchange
import ObjectGateway.Proofs.Text.Utf8

/-!
# Where redirects lead

A request is redirected to an address that the store has signed or, where no file was found, to its
own path as a folder.  The location of a folder begins as the target of the request does, so it stays
on the host of the request exactly where that target does: `folder_redirect_host`.  A target that
begins with two slashes, or with a slash and a backslash, is redirected to another host:
`folder_redirect_leaves_host`.
-/

namespace ObjectGateway.Http

open ObjectGateway.Flow
open Exchange (called answered)

/-! ## Responders -/

namespace Responder

variable {r : Responder} {slot next last : Slot} {e : Exchange GatewayInterface}
  {u : Conversation GatewayInterface} {t : Conversation TargetInterface} {response : Response}

theorem page_status_ne_found (page : Page) : page.status ≠ 302 := by
  cases page <;> decide

theorem fileResponse_status {file : FileAnswer} (h : fileResponse file = .ok response) :
    response.status = 200 ∨ response.status = 206 := by
  have hstatus : fileStatus file.metadata = 200 ∨ fileStatus file.metadata = 206 := by
    unfold fileStatus
    split_ifs <;> simp
  by_cases hvalues : (fileHeaders file.metadata).all fun h => isValue h.value
  · simp only [fileResponse, hvalues, if_true, Except.ok.injEq] at h
    rw [← h]
    exact hstatus
  · simp [fileResponse, hvalues] at h

/-- A redirect, and the outcomes that it can be made of. -/
inductive Redirected (r : Responder) (u : Conversation GatewayInterface) : Response → Prop
  | address {url : String} (h : answered (.redirect url) ∈ u) : Redirected r u (.redirect url)
  | folder (h : answered .redirectWithTrailingSlash ∈ u) :
      Redirected r u (.redirect (folderLocation r.request))

theorem Redirected.cons (h : Redirected r u response) : Redirected r (e :: u) response := by
  cases h with
  | address h => exact .address (List.mem_cons_of_mem e h)
  | folder h => exact .folder (List.mem_cons_of_mem e h)

/-- No page is a redirect, so a redirect is made of an outcome that is one. -/
theorem OutcomeMade.redirected {o : Outcome} {calls : Conversation StoreInterface}
    (h : r.OutcomeMade o calls response) (hstatus : response.status = 302) :
    Redirected r (answered o :: u) response := by
  rcases h with ⟨page, values, -, hpage⟩ | ⟨-, hplain⟩
  · rcases hpage.status with hpage | hpage
    · exact absurd (hpage.symm.trans hstatus) (page_status_ne_found page)
    · omega
  · cases o with
    | redirect url =>
      obtain rfl : Response.redirect url = response := Option.some.inj hplain
      exact .address List.mem_cons_self
    | redirectWithTrailingSlash =>
      obtain rfl : Response.redirect _ = response := Option.some.inj hplain
      exact .folder List.mem_cons_self
    | notModified =>
      obtain rfl : Response.bare 304 = response := Option.some.inj hplain
      cases hstatus
    | preconditionFailed =>
      obtain rfl : Response.bare 412 = response := Option.some.inj hplain
      cases hstatus
    | stored echo =>
      obtain rfl : Response.ofJson 200 _ = response := Option.some.inj hplain
      cases hstatus
    | removed key =>
      obtain rfl : Response.bare 204 = response := Option.some.inj hplain
      cases hstatus
    | _ => cases hplain

theorem Carried.redirected (h : Carried r slot e t next) (hresponse : response ∈ next)
    (hstatus : response.status = 302) : response ∈ slot ∨ Redirected r (e :: u) response := by
  cases h with
  | store c reply => exact .inl hresponse
  | dispatch event => exact .inl hresponse
  | sent hfile =>
    rcases List.mem_cons.1 hresponse with rfl | hresponse
    · rcases fileResponse_status hfile with h | h <;> omega
    · exact .inl hresponse
  | refused hfile => exact .inl hresponse
  | answered hreads hmade =>
    rcases List.mem_cons.1 hresponse with rfl | hresponse
    · exact .inr (hmade.redirected hstatus)
    · exact .inl hresponse

theorem Carries.redirected (h : Carries r u slot t last) (hresponse : response ∈ last)
    (hstatus : response.status = 302) : response ∈ slot ∨ Redirected r u response := by
  induction h with
  | nil slot => exact .inl hresponse
  | cons hfirst hrest ih =>
    rcases ih hresponse with hnext | hlater
    · exact hfirst.redirected hnext hstatus
    · exact .inr hlater.cons

/-- What a gateway asks of its store is asked on its behalf. -/
theorem Carries.called_mem {c : StoreCall} {reply : c.Reply} (h : Carries r u slot t last)
    (hcalled : called c reply ∈ u) : (⟨.store c, reply⟩ : Exchange TargetInterface) ∈ t := by
  induction h with
  | nil slot => cases hcalled
  | cons hfirst hrest ih =>
    rcases List.mem_cons.1 hcalled with rfl | hcalled
    · cases hfirst
      exact List.mem_append_left _ (List.mem_singleton.2 rfl)
    · exact List.mem_append_right _ (ih hcalled)

end Responder

/-! ## Services -/

/-- The address in an exchange, if the store has signed one. -/
def signedAddress? : Exchange ServiceInterface → Option String
  | ⟨.store _ (.signedUrl ..), reply⟩ =>
    match (reply : Answer String) with
    | .ok url => some url
    | .error _ => none
  | _ => none

/-- The addresses that stores have signed. -/
def signedAddresses (t : Conversation ServiceInterface) : List String :=
  t.filterMap signedAddress?

namespace Service

variable {s : Setup} {snapshot : Snapshot} {request : Request} {t : Conversation ServiceInterface}
  {response : Response}

theorem Performed.signsRedirects {g : Gateway} {ctx : RequestContext} {path : String}
    {u : Conversation GatewayInterface} (h : Performed g ctx path u) : u.SignsRedirects := by
  cases h with
  | write h => exact Gateway.write_signsRedirects h
  | remove h => exact Gateway.remove_signsRedirects h
  | read _ h => exact Gateway.read_signsRedirects h
  | unread f => exact Gateway.signsRedirects_answered (by simp)
  | malformed f => exact Gateway.signsRedirects_answered (by simp)

theorem routed_signsRedirects {route : Route Target} {u : Conversation GatewayInterface}
    (h : (routed s request route).Runs u ()) : u.SignsRedirects := by
  cases Served.of_runs h with
  | undecoded f => exact Gateway.signsRedirects_answered (by simp)
  | performed _ h => exact h.signsRedirects

theorem mem_signedAddresses {config : TargetConfig} {v : Conversation TargetInterface}
    {key url : String} {conditions : GetConditions} {span : Timespan}
    (h : (⟨.store (.signedUrl key conditions span), .ok url⟩ : Exchange TargetInterface) ∈ v) :
    url ∈ signedAddresses (v.map (ofTarget config)) := by
  refine List.mem_filterMap.2 ⟨_, List.mem_map_of_mem h, ?_⟩
  rfl

/-- Where a request is redirected, this is what the gateway of its target has answered. -/
theorem process_redirect_run (h : (process s snapshot request).Runs t response)
    (hstatus : response.status = 302) :
    ∃ route u v slot, routeOf snapshot request = some route ∧ (routed s request route).Runs u () ∧
      Responder.Carries (responder s snapshot request) u [] v slot ∧
      t = v.map (ofTarget route.target.config) ∧ response = Responder.finish slot ∧
      Responder.Redirected (responder s snapshot request) u response := by
  cases ProcessRun.of_runs h with
  | unrouted _ hmade =>
    cases hmade.redirected (u := []) hstatus with
    | address hanswer => simp at hanswer
    | folder hanswer => simp at hanswer
  | refused _ _ => cases hstatus
  | @routed route u v slot hroute _ hu hcarries =>
    refine ⟨route, u, v, slot, hroute, hu, hcarries, rfl, rfl, ?_⟩
    cases slot with
    | nil => cases hstatus
    | cons response rest =>
      rw [Responder.finish_cons] at hstatus ⊢
      rcases hcarries.redirected List.mem_cons_self hstatus with h | h
      · cases h
      · exact h

/-- The address of a redirect that is not one to a folder is one that the store has signed. -/
theorem signed_of_address {route : Route Target} {u : Conversation GatewayInterface}
    {v : Conversation TargetInterface} {slot : Responder.Slot} {url : String}
    (hu : (routed s request route).Runs u ())
    (hcarries : Responder.Carries (responder s snapshot request) u [] v slot)
    (hanswer : answered (.redirect url) ∈ u) :
    url ∈ signedAddresses (v.map (ofTarget route.target.config)) := by
  obtain ⟨key, conditions, span, hcalled⟩ := routed_signsRedirects hu url hanswer
  exact mem_signedAddresses (hcarries.called_mem hcalled)

/-- Whoever is redirected is sent to an address that the store has signed, or to the folder. -/
theorem process_redirected (h : (process s snapshot request).Runs t response)
    (hstatus : response.status = 302) :
    (∃ url ∈ signedAddresses t, response = .redirect url) ∨
      response = .redirect
        (folderLocation (requestInfo request.method request.uri request.headers)) := by
  obtain ⟨route, u, v, slot, -, hu, hcarries, rfl, -, hredirected⟩ := process_redirect_run h hstatus
  cases hredirected with
  | address hanswer => exact .inl ⟨_, signed_of_address hu hcarries hanswer, rfl⟩
  | folder _ => exact .inr (by rw [responder_request])

theorem signedAddresses_concat (t : Conversation ServiceInterface) (c : Count) :
    signedAddresses (t ++ [⟨.count c, ()⟩]) = signedAddresses t := by
  simp [signedAddresses, List.filterMap_append, signedAddress?]

/-- Neither the health check nor the counters are a redirect. -/
theorem process_of_respond (h : (respond s snapshot request).Runs t response)
    (hstatus : response.status = 302) : (process s snapshot request).Runs t response := by
  unfold respond at h
  split_ifs at h
  · obtain ⟨-, rfl⟩ := runs_pure_iff.1 h
    cases hstatus
  · obtain ⟨text, t₁, t₂, -, hpure, -⟩ := runs_monad_bind_iff.1 h
    obtain ⟨-, rfl⟩ := runs_pure_iff.1 hpure
    cases hstatus
  · exact h

theorem handle_redirected (h : (handle s snapshot request).Runs t response)
    (hstatus : response.status = 302) :
    (∃ url ∈ signedAddresses t, response = .redirect url) ∨
      response = .redirect
        (folderLocation (requestInfo request.method request.uri request.headers)) := by
  obtain ⟨u, hu, rfl⟩ := handle_runs_iff.1 h
  rw [signedAddresses_concat]
  exact process_redirected (process_of_respond hu hstatus) hstatus

end Service

/-! ## Locations -/

/-- A location that leads to the host of the request: it is a path, and not one that a client takes
for another host, which two slashes begin, or a slash and a backslash. -/
def StaysOnHost (location : String) : Prop :=
  location.toList.head? = some '/' ∧ location.toList[1]? ≠ some '/' ∧
    location.toList[1]? ≠ some '\\'

instance : DecidablePred StaysOnHost := fun location =>
  inferInstanceAs (Decidable (location.toList.head? = some '/' ∧
    location.toList[1]? ≠ some '/' ∧ location.toList[1]? ≠ some '\\'))

theorem staysOnHost_iff {location : String} {cs : List Char} (h : location.toList = '/' :: cs) :
    StaysOnHost location ↔ cs.head? ≠ some '/' ∧ cs.head? ≠ some '\\' := by
  simp [StaysOnHost, h, List.head?_eq_getElem?]

/-- The path of a target that begins with a slash. -/
theorem path_ofText {target : String} {cs : List Char} (h : target.toList = '/' :: cs) :
    (Uri.ofText target).path.toList =
      '/' :: (cs.takeWhile (· ≠ '#')).takeWhile (· ≠ '?') := by
  simp [Uri.ofText, Uri.path, Uri.dropFragment, h, String.toList_ofList]

/-- A path that begins with a slash is only added to, and after a lone slash comes a query at
most. -/
theorem folderLocation_toList {info : RequestInfo} {cs : List Char}
    (h : info.path.toList = '/' :: cs) :
    ∃ ending, (folderLocation info).toList = '/' :: (cs ++ ending) ∧
      (cs = [] → ending.head? = none ∨ ending.head? = some '?') := by
  obtain ⟨slash, hslash, hlone⟩ : ∃ slash,
      (if info.path.toList.getLast? = some '/' then info.path else info.path ++ "/").toList =
        '/' :: (cs ++ slash) ∧ (cs = [] → slash = []) := by
    by_cases hlast : info.path.toList.getLast? = some '/'
    · exact ⟨[], by rw [if_pos hlast, h, List.append_nil], fun _ => rfl⟩
    · refine ⟨['/'], by rw [if_neg hlast, String.toList_append, h]; rfl, ?_⟩
      rintro rfl
      simp [h] at hlast
  have hhead : info.path.toList.head? = some '/' := by rw [h, List.head?_cons]
  unfold folderLocation
  simp only [hhead, if_true]
  cases Text.splitOnce '?' info.url.toList with
  | none =>
    refine ⟨slash, hslash, fun hcs => .inl ?_⟩
    rw [hlone hcs, List.head?_nil]
  | some parts =>
    refine ⟨slash ++ '?' :: parts.2, ?_, fun hcs => .inr ?_⟩
    · simp [String.toList_append, hslash]
    · rw [hlone hcs, List.nil_append, List.head?_cons]

/-- The second character of a location is that of the target, or what ends the path. -/
theorem staysOnHost_folderLocation {info : RequestInfo} {target : String}
    (hpath : info.path = (Uri.ofText target).path) (hrooted : target.toList.head? = some '/') :
    (folderLocation info).toList.head? = some '/' ∧
      (StaysOnHost (folderLocation info) ↔ StaysOnHost target) := by
  obtain ⟨cs, hcs⟩ := List.head?_eq_some_iff.1 hrooted
  obtain ⟨ending, hlocation, hlone⟩ := folderLocation_toList (hpath ▸ path_ofText hcs)
  refine ⟨by rw [hlocation, List.head?_cons], ?_⟩
  rw [staysOnHost_iff hlocation, staysOnHost_iff hcs]
  cases cs with
  | nil => rcases hlone rfl with h | h <;> simp [h]
  | cons c rest =>
    by_cases hfragment : c = '#'
    · subst hfragment
      rcases hlone (by simp) with h | h <;> simp [h]
    · by_cases hquery : c = '?'
      · subst hquery
        rcases hlone (by simp) with h | h <;> simp [h]
      · simp [hfragment, hquery]

theorem Response.redirect_of_status {location : String}
    (h : (Response.redirect location).status = 302) :
    Response.redirect location = ⟨302, [textHeader "location" location], .empty⟩ := by
  by_cases hvalue : isValue (Text.Utf8.encode location) = true
  · simp [redirect, hvalue, textHeader]
  · simp [redirect, hvalue, fallback, markup] at h

namespace Service

/-- The redirect to a folder is a path, and it stays on the host of the request exactly where the
target of the request does, for every configuration and whatever the store replies. -/
theorem folder_redirect_host {s : Setup} {snapshot : Snapshot} {request : Request} {target : String}
    {t : Conversation ServiceInterface} {response : Response}
    (h : (handle s snapshot request).Runs t response) (huri : request.uri = .ofText target)
    (hrooted : target.toList.head? = some '/') (hstatus : response.status = 302)
    (hunsigned : signedAddresses t = []) :
    ∃ location, response = ⟨302, [textHeader "location" location], .empty⟩ ∧
      location = folderLocation (requestInfo request.method request.uri request.headers) ∧
      location.toList.head? = some '/' ∧ (StaysOnHost location ↔ StaysOnHost target) := by
  have hfolder : response = .redirect
      (folderLocation (requestInfo request.method request.uri request.headers)) := by
    rcases handle_redirected h hstatus with ⟨url, hurl, -⟩ | hfolder
    · rw [hunsigned] at hurl
      cases hurl
    · exact hfolder
  have hpath : (requestInfo request.method request.uri request.headers).path =
      (Uri.ofText target).path := congrArg Uri.path huri
  rw [hfolder] at hstatus ⊢
  exact ⟨_, Response.redirect_of_status hstatus, rfl, staysOnHost_folderLocation hpath hrooted⟩

/-- A question for a missing file with a query. -/
theorem folder_redirect_host_docs :
    let get : GetConfig := { GetConfig.standard with redirectWithTrailingSlash := true }
    let snapshot : Snapshot :=
      ⟨[(Gateway.docs [] ⟨some ⟨true, get⟩, none, none⟩).target], ⟨[], .const none⟩, ""⟩
    let request : Request := ⟨"HEAD", .ofText "/a/b?q=1", [], []⟩
    let talk := (handle ⟨.standard, ⟨[]⟩⟩ snapshot request).converse (surroundings nothing) ((), [])
    talk.value.status = 302 ∧ signedAddresses talk.exchanges = [] ∧
      ∃ location, talk.value = ⟨302, [textHeader "location" location], .empty⟩ ∧
        location = folderLocation (requestInfo request.method request.uri request.headers) ∧
        location.toList.head? = some '/' ∧ (StaysOnHost location ↔ StaysOnHost "/a/b?q=1") := by
  intro get snapshot request talk
  have hstatus : talk.value.status = 302 := by decide +kernel
  have hunsigned : signedAddresses talk.exchanges = [] := by decide +kernel
  exact ⟨hstatus, hunsigned,
    folder_redirect_host (converse_runs _ _ _) rfl (by decide) hstatus hunsigned⟩

/-- A missing file below an empty first segment is redirected to the host that the second segment
names. -/
theorem folder_redirect_leaves_host :
    ¬∀ (s : Setup) (snapshot : Snapshot) (request : Request) (target : String)
      (t : Conversation ServiceInterface) (response : Response),
      (handle s snapshot request).Runs t response →
      request.method = "GET" ∨ request.method = "HEAD" → request.uri = .ofText target →
      target.toList.head? = some '/' → response.status = 302 → signedAddresses t = [] →
      ∃ location, response.headers = [textHeader "location" location] ∧ StaysOnHost location := by
  intro hall
  let get : GetConfig := { GetConfig.standard with redirectWithTrailingSlash := true }
  let snapshot : Snapshot :=
    ⟨[(Gateway.docs [] ⟨some ⟨true, get⟩, none, none⟩).target], ⟨[], .const none⟩, ""⟩
  let request : Request := ⟨"GET", .ofText "//evil.example/a", [], []⟩
  let talk := (handle ⟨.standard, ⟨[]⟩⟩ snapshot request).converse (surroundings nothing) ((), [])
  have hvalue : talk.value = ⟨302, [textHeader "location" "//evil.example/a/"], .empty⟩ := by
    decide +kernel
  have hunsigned : signedAddresses talk.exchanges = [] := by decide +kernel
  obtain ⟨location, hheaders, hstays⟩ := hall _ _ request "//evil.example/a" talk.exchanges
    talk.value (converse_runs _ _ _) (.inl rfl) rfl (by decide) (by rw [hvalue]) hunsigned
  have hencoded : Text.Utf8.encode "//evil.example/a/" = Text.Utf8.encode location := by
    simpa [hvalue, textHeader] using hheaders
  have hlocation : "//evil.example/a/" = location := by
    have hdecoded := congrArg Text.Utf8.decode hencoded
    rw [Text.Utf8.decode_encode, Text.Utf8.decode_encode] at hdecoded
    exact Except.ok.inj hdecoded
  rw [← hlocation] at hstays
  exact absurd hstays (by decide)

end Service

end ObjectGateway.Http
