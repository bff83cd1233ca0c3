import ObjectGateway.Http.Service
import ObjectGateway.Proofs.Routing
import ObjectGateway.Proofs.TextMap

/-!
# The host of a request

A request names its host in headers, or in its address.  What is told of a request joins all headers
that can be read and falls back to the address; a request is routed by its first header alone.  The
two send a request to the same targets, whatever these are, exactly where both name one host, or none:
`routed_as_reported`.  A host that is named in the address alone is not looked at, so that a target
which is bound to it is missed: `host_of_address_unrouted`.
-/

namespace ObjectGateway

/-! ## Names of one host -/

/-- A host without its port and the case of its letters. -/
def hostIdentity (h : String) : List Char :=
  (hostWithoutPort h.toList).map Char.toLower

theorem sameHost_iff {h k : String} : sameHost h k = true ↔ hostIdentity h = hostIdentity k :=
  beq_iff_eq

/-- Whether a mount accepts a host depends on the identity of the host. -/
theorem Mount.acceptsHost?_congr {host host' : Option String}
    (h : host.map hostIdentity = host'.map hostIdentity) (m : Mount) :
    m.acceptsHost? host = m.acceptsHost? host' := by
  have hsame (wanted : String) : host.elim false (sameHost · wanted) =
      host'.elim false (sameHost · wanted) := by
    cases host with
    | none =>
      obtain rfl : host' = none := by simpa using h.symm
      rfl
    | some a =>
      obtain ⟨b, rfl, hb⟩ := Option.map_eq_some_iff.1 h.symm
      rw [Option.elim_some, Option.elim_some, Bool.eq_iff_iff, sameHost_iff, sameHost_iff, hb]
  unfold acceptsHost?
  cases m.host with
  | none => rfl
  | some wanted => simp only [hsame]

theorem route_congr {α : Type} {mountOf : α → Mount} {targets : List α}
    {host host' : Option String} (h : host.map hostIdentity = host'.map hostIdentity)
    (path : String) : route mountOf targets host path = route mountOf targets host' path := by
  unfold route Mount.candidates
  simp only [Mount.acceptsHost?_congr h]

namespace Http

/-! ## Headers -/

/-- The values of a header that can be read. -/
def Headers.texts (hs : Headers) (name : String) : List String :=
  (hs.values name).filterMap valueText?

/-- A text behind those that came before it. -/
def joinText (before : Option String) (v : String) : Option String :=
  some (match before with
    | some b => b ++ ", " ++ v
    | none => v)

theorem get?_joinHeader (m : TextMap String) (h : Header) (name : String) :
    (joinHeader m h).get? name = (Headers.texts [h] name).foldl joinText (m.get? name) := by
  unfold joinHeader
  cases hv : valueText? h.value with
  | none => by_cases hname : h.name = name <;> simp [Headers.texts, Headers.values, hname, hv]
  | some v =>
    show (m.insert h.name _).get? name = _
    rw [TextMap.get?_insert]
    by_cases hname : h.name = name
    · subst hname
      cases hbefore : m.get? h.name <;>
        simp [Headers.texts, Headers.values, joinText, hv]
    · simp [Headers.texts, Headers.values, hname, Ne.symm hname]

theorem Headers.texts_cons (h : Header) (hs : Headers) (name : String) :
    texts (h :: hs) name = texts [h] name ++ texts hs name := by
  by_cases hname : h.name = name <;>
    cases hv : valueText? h.value <;> simp [texts, values, hname, hv]

/-- What is told of a header is what can be read of its values, joined. -/
theorem get?_headerMap (hs : Headers) (name : String) :
    (headerMap hs).get? name = (hs.texts name).foldl joinText none := by
  have hfold (m : TextMap String) :
      (hs.foldl joinHeader m).get? name = (hs.texts name).foldl joinText (m.get? name) := by
    induction hs generalizing m with
    | nil => rfl
    | cons h hs ih =>
      rw [List.foldl_cons, ih, get?_joinHeader, Headers.texts_cons h hs, List.foldl_append]
  exact hfold []

theorem Headers.get?_eq_head? (hs : Headers) (name : String) :
    hs.get? name = (hs.values name).head? := by
  rw [get?, values, List.head?_map, List.head?_filter]

namespace Service

variable {request : Request}

/-- The host that is told of a request. -/
def reportedHost (request : Request) : Option String :=
  let host := (requestInfo request.method request.uri request.headers).host
  if host.isEmpty then none else some host

/-- The target that a request for a host goes to. -/
def routeBy (host : Option String) (snapshot : Snapshot) (request : Request) :
    Option (Route Target) :=
  route (fun t : Target => t.config.mount) snapshot.targets host request.uri.path

/-! ## What the headers say -/

theorem routingHost_eq_none (h : request.headers.values "host" = []) :
    routingHost request = none := by
  simp [routingHost, Headers.text?, Headers.get?_eq_head?, h]

/-- A request with one header for its host that can be read is routed by what is told of it. -/
theorem routingHost_of_header {v : Bytes} {host : String}
    (h : request.headers.values "host" = [v]) (hv : valueText? v = some host) (hne : host ≠ "") :
    routingHost request = some host ∧ reportedHost request = some host := by
  have hsome : (headerMap request.headers).get? "host" = some host := by
    rw [get?_headerMap, Headers.texts, h, List.filterMap_cons_some hv]
    rfl
  constructor
  · simp [routingHost, Headers.text?, Headers.get?_eq_head?, h, hv]
  · simp [reportedHost, requestInfo, hsome, hne]

/-! ## Targets -/

/-- A target that is bound to a host, below one path. -/
def boundTarget (host path : String) : Target :=
  ⟨{ name := "docs", mount := ⟨some host, [path]⟩,
     bucket := ⟨"docs", "", "us-east-1", none, none, false, 1000, ⟨[], [], [], []⟩⟩,
     rules := [], templates := ⟨[], .const none⟩,
     actions := ⟨some ⟨true, .standard⟩, none, none⟩ }, [], ""⟩

/-- A request for the path of a target that is bound to a host goes there exactly if it is for that
host. -/
theorem routeBy_boundTarget (request : Request) (host : Option String) (wanted : String) :
    routeBy host ⟨[boundTarget wanted request.uri.path], ⟨[], .const none⟩, ""⟩ request = none ↔
      host.map hostIdentity ≠ some (hostIdentity wanted) := by
  rw [routeBy, route_eq_none_iff]
  constructor
  · intro h hsame
    obtain ⟨a, rfl, ha⟩ := Option.map_eq_some_iff.1 hsame
    refine h _ (List.mem_singleton.2 rfl) request.uri.path
      ⟨List.mem_singleton.2 rfl, List.prefix_rfl, ?_⟩
    rintro _ ⟨⟩
    exact ⟨a, rfl, sameHost_eq_true_iff.1 (sameHost_iff.2 ha)⟩
  · rintro h t ht p hmatch
    obtain rfl := List.mem_singleton.1 ht
    obtain ⟨a, rfl, ha⟩ := hmatch.host wanted rfl
    exact h (congrArg some (sameHost_iff.1 (sameHost_eq_true_iff.2 ha)))

/-- A request goes to the target of the host that is told of it, whatever targets there are, exactly
if the host that it is routed by is the same one. -/
theorem routeOf_eq_iff :
    (∀ snapshot, routeOf snapshot request = routeBy (reportedHost request) snapshot request) ↔
      (routingHost request).map hostIdentity = (reportedHost request).map hostIdentity := by
  constructor
  · intro h
    -- A target that is bound to a host tells whether a request is for this host.
    have hsame (wanted : String) :
        (routingHost request).map hostIdentity = some (hostIdentity wanted) ↔
          (reportedHost request).map hostIdentity = some (hostIdentity wanted) := by
      have hboth := h ⟨[boundTarget wanted request.uri.path], ⟨[], .const none⟩, ""⟩
      have hrouted := routeBy_boundTarget request (routingHost request) wanted
      have hreported := routeBy_boundTarget request (reportedHost request) wanted
      rw [← not_iff_not, ← ne_eq, ← ne_eq, ← hrouted, ← hreported, ← hboth]
      rfl
    cases hrouted : routingHost request with
    | some host => exact ((hsame host).1 (by rw [hrouted]; rfl)).symm
    | none =>
      cases hreported : reportedHost request with
      | none => rfl
      | some host =>
        have hnone := (hsame host).2 (by rw [hreported]; rfl)
        rw [hrouted] at hnone
        cases hnone
  · exact fun h snapshot => route_congr h _

/-- A request that names its host in the address alone reaches no target that is bound to a host. -/
theorem unbound_of_address (h : request.headers.values "host" = []) {snapshot : Snapshot}
    {r : Route Target} (hroute : routeOf snapshot request = some r) :
    r.target.config.mount.host = none := by
  rw [routeOf, routingHost_eq_none h] at hroute
  cases hbound : r.target.config.mount.host with
  | none => rfl
  | some wanted =>
    obtain ⟨host, ⟨⟩, -⟩ := (bestMatch_of_route hroute).isMatch.host wanted hbound

/-- A request is routed by the host that is told of it exactly if the text of its first header for
the host names the same one.  So it is where this header is the only one, and where the request names
no host at all; but a host that is named in the address alone is not looked at. -/
theorem routed_as_reported (request : Request) :
    ((∀ snapshot, routeOf snapshot request = routeBy (reportedHost request) snapshot request) ↔
      (routingHost request).map hostIdentity = (reportedHost request).map hostIdentity) ∧
    (∀ v host, request.headers.values "host" = [v] → valueText? v = some host → host ≠ "" →
      reportedHost request = some host ∧
        ∀ snapshot, routeOf snapshot request = routeBy (some host) snapshot request) ∧
    (request.headers.values "host" = [] → reportedHost request = none →
      ∀ snapshot, routeOf snapshot request = routeBy none snapshot request) ∧
    (request.headers.values "host" = [] → ∀ snapshot r, routeOf snapshot request = some r →
      r.target.config.mount.host = none) := by
  refine ⟨routeOf_eq_iff, fun v host h hv hne => ?_, fun h hnone => ?_, fun h snapshot r =>
    unbound_of_address h⟩
  · obtain ⟨hrouted, hreported⟩ := routingHost_of_header h hv hne
    refine ⟨hreported, ?_⟩
    rw [← hreported]
    exact routeOf_eq_iff.2 (by rw [hrouted, hreported])
  · rw [← hnone]
    exact routeOf_eq_iff.2 (by rw [routingHost_eq_none h, hnone])

/-- A request with a header for its host, and one whose host is named in the address. -/
theorem routed_as_reported_docs :
    let snapshot : Snapshot := ⟨[boundTarget "docs.test" "/a/"], ⟨[], .const none⟩, ""⟩
    let named : Request := ⟨"GET", .ofText "/a/b", [textHeader "host" "Docs.test:8080"], []⟩
    let addressed : Request := ⟨"GET", .ofText "/a/b", [], []⟩
    named.headers.values "host" = [Text.Utf8.encode "Docs.test:8080"] ∧
      valueText? (Text.Utf8.encode "Docs.test:8080") = some "Docs.test:8080" ∧
      reportedHost named = some "Docs.test:8080" ∧
      routeOf snapshot named = routeBy (some "Docs.test:8080") snapshot named ∧
      addressed.headers.values "host" = [] ∧ reportedHost addressed = none ∧
      routeOf snapshot addressed = routeBy none snapshot addressed := by
  intro snapshot named addressed
  have hvalues : named.headers.values "host" = [Text.Utf8.encode "Docs.test:8080"] := by
    decide +kernel
  have htext : valueText? (Text.Utf8.encode "Docs.test:8080") = some "Docs.test:8080" := by
    decide +kernel
  have hnone : reportedHost addressed = none := by decide +kernel
  obtain ⟨hreported, hrouted⟩ :=
    (routed_as_reported named).2.1 _ _ hvalues htext (by decide)
  exact ⟨hvalues, htext, hreported, hrouted snapshot, rfl, hnone,
    (routed_as_reported addressed).2.2.1 rfl hnone snapshot⟩

/-- A request whose address names the host that a target is bound to does not reach it. -/
theorem host_of_address_unrouted :
    ¬∀ (snapshot : Snapshot) (request : Request),
      routeOf snapshot request = routeBy (reportedHost request) snapshot request := by
  intro hall
  let snapshot : Snapshot := ⟨[boundTarget "h.example" "/docs/"], ⟨[], .const none⟩, ""⟩
  let request : Request := ⟨"GET", .ofText "http://h.example/docs/a.txt", [], []⟩
  have hrouted : (routeOf snapshot request).isSome = false := by decide +kernel
  have hreported : (routeBy (reportedHost request) snapshot request).isSome = true := by
    decide +kernel
  rw [hall snapshot request, hreported] at hrouted
  cases hrouted

end Service

end Http

end ObjectGateway
