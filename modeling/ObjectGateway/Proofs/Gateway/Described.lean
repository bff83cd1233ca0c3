import ObjectGateway.Proofs.Gateway.Runs
import ObjectGateway.Proofs.Gateway.Serving
import ObjectGateway.Proofs.Text.Lines
import ObjectGateway.Proofs.Time.Timestamps

/-!
# What an upload is stored with

The values of the templates of an upload, as they are handed to the store.  A template gives a line,
the text of it without the line breaks, unless nothing is left of it: `RendersLine`.  `Describes`
says this of everything that is kept with an object, and `steps` lists all that can fail, in order:
the failure of the first step that fails is the answer to the upload.  The main statement is
`upload_described`.
-/

namespace ObjectGateway.Gateway

open GatewayFlow
open Exchange (called told sent answered)

/-- A template renders to a line: its text has a character that ends no line, and the line is the
text without those that do. -/
def RendersLine (g : Gateway) (values : Json) (source line : String) : Prop :=
  ∃ rendered, g.engine.render source values = .ok rendered ∧
    (∃ c ∈ rendered.toList, c ≠ '\r' ∧ c ≠ '\n') ∧
    line.toList = rendered.toList.filter fun c => c ≠ '\r' ∧ c ≠ '\n'

/-- The value of a template that need not be there: its line, where it is given, is not empty and
renders to one. -/
def Supplies (g : Gateway) (values : Json) (source value : Option String) : Prop :=
  ∀ line, value = some line ↔
    ∃ template, source = some template ∧ template ≠ "" ∧ g.RendersLine values template line

/-- The headers that are kept with an object are what their templates give. -/
structure DescribesHeaders (g : Gateway) (m : Option SystemMetadata) (values : Json)
    (r : PutRequest) : Prop where
  cacheControl : g.Supplies values (m.bind (·.cacheControl)) r.cacheControl
  contentDisposition : g.Supplies values (m.bind (·.contentDisposition)) r.contentDisposition
  contentEncoding : g.Supplies values (m.bind (·.contentEncoding)) r.contentEncoding
  contentLanguage : g.Supplies values (m.bind (·.contentLanguage)) r.contentLanguage
  /-- The expiry is the instant that its line denotes. -/
  expires : ∃ line, g.Supplies values (m.bind (·.expires)) line ∧
    ∀ t, r.expires = some t ↔ ∃ text, line = some text ∧ Time.Denotes text t

/-- What is kept with the object of an upload is what the templates of the configuration give. -/
structure Describes (g : Gateway) (c : PutConfig) (values : Json) (input : PutInput) (key : String)
    (r : PutRequest) : Prop extends DescribesHeaders g c.systemMetadata values r where
  key : r.key = key
  body : r.body = input.body
  contentType : r.contentType = input.contentType
  contentSize : r.contentSize = input.contentSize
  /-- There are metadata exactly if there are templates for them. -/
  metadata : r.metadata = none ↔ c.metadata = []
  /-- Of the metadata, those are kept that have a line, in order. -/
  metadataLines : ∀ m, r.metadata = some m →
    (m.map (·.1)).Sublist (c.metadata.map (·.1)) ∧
      ∀ name line, (name, line) ∈ m ↔
        ∃ template, (name, template) ∈ c.metadata ∧ g.RendersLine values template line
  storageClass : g.Supplies values c.storageClass r.storageClass
  cannedAcl : r.cannedAcl = c.cannedAcl

/-! ## Failures in order -/

/-- A template is rendered. -/
def rendering (g : Gateway) (values : Json) (source : String) : Answer Unit :=
  (g.engine.render source values).map fun _ => ()

/-- A template is rendered, and its line is read as an instant. -/
def expiring (g : Gateway) (values : Json) (source : String) : Answer Unit := do
  let rendered ← g.engine.render source values
  let line := Text.stripLineBreaks rendered
  if line.isEmpty then return () else (readExpires line).map fun _ => ()

/-- All that can fail for the headers that are kept with an object, in order. -/
def headerSteps (g : Gateway) (values : Json) (m : SystemMetadata) : List (Answer Unit) :=
  (givenSource m.cacheControl ++ givenSource m.contentDisposition ++
    givenSource m.contentEncoding ++ givenSource m.contentLanguage).map (g.rendering values) ++
    (givenSource m.expires).map (g.expiring values)

/-- All that can fail for what is kept with an object, in order. -/
def steps (g : Gateway) (c : PutConfig) (values : Json) : List (Answer Unit) :=
  c.systemMetadata.elim [] (g.headerSteps values) ++
    c.metadata.map (fun p => g.rendering values p.2) ++
    (givenSource c.storageClass).map (g.rendering values)

section Steps

variable {g : Gateway} {c : PutConfig} {values : Json} {source : String} {r : PutRequest}

theorem failure?_renderValue :
    failure? (g.renderValue values source) = failure? (g.rendering values source) := by
  rw [renderValue, rendering, failure?_map, failure?_map]

theorem failure?_renderOptional {source : Option String} :
    failure? (g.renderOptional values source) =
      firstFailure? ((givenSource source).map (g.rendering values)) := by
  cases source with
  | none => rfl
  | some source =>
    cases hempty : source.isEmpty with
    | true => simp [renderOptional, givenSource, hempty, failure?, firstFailure?]
    | false => simp [renderOptional, givenSource, hempty, failure?_renderValue, firstFailure?]

theorem failure?_renderExpires {source : Option String} :
    failure? (g.renderExpires values source) =
      firstFailure? ((givenSource source).map (g.expiring values)) := by
  cases source with
  | none => rfl
  | some source =>
    cases hempty : source.isEmpty with
    | true =>
      simp only [renderExpires, renderOptional, givenSource, hempty, if_true]
      rfl
    | false =>
      have hone : firstFailure? ((givenSource (some source)).map (g.expiring values)) =
          failure? (g.expiring values source) := by
        simp [givenSource, hempty, firstFailure?]
      rw [hone]
      simp only [renderExpires, renderOptional, hempty, Bool.false_eq_true, if_false, renderValue,
        expiring]
      cases g.engine.render source values with
      | error f => rfl
      | ok rendered =>
        -- A line that is empty is no expiry, and any other one is read.
        cases hline : (Text.stripLineBreaks rendered).isEmpty with
        | true => simp [Except.map, bind, Except.bind, pure, Except.pure, hline, failure?]
        | false =>
          simp only [Except.map, bind, Except.bind, hline, Bool.false_eq_true, if_false]
          cases readExpires (Text.stripLineBreaks rendered) <;> rfl

theorem failure?_withConfiguredHeaders :
    failure? (g.withConfiguredHeaders c values r) =
      firstFailure? (c.systemMetadata.elim [] (g.headerSteps values)) := by
  unfold withConfiguredHeaders
  cases c.systemMetadata with
  | none => rfl
  | some m =>
    simp only [Option.elim_some, headerSteps, List.map_append, firstFailure?_append, Option.or_assoc,
      ← failure?_renderOptional, ← failure?_renderExpires]
    exact failure?_bind fun _ => failure?_bind fun _ => failure?_bind fun _ =>
      failure?_bind fun _ => failure?_bind_pure

theorem failure?_renderMetadata {sources : List (String × String)} :
    failure? (g.renderMetadata values sources) =
      firstFailure? (sources.map fun p => g.rendering values p.2) := by
  induction sources with
  | nil => rfl
  | cons p rest ih =>
    have hrest : failure? (g.renderMetadata values (p :: rest)) =
        (failure? (g.renderValue values p.2)).or (failure? (g.renderMetadata values rest)) :=
      failure?_bind fun _ => failure?_bind_pure
    rw [hrest, ih, failure?_renderValue]
    cases hfirst : failure? (g.rendering values p.2) <;> simp [firstFailure?, hfirst]

theorem failure?_renderUserMetadata {sources : TextMap String} :
    failure? (g.renderUserMetadata values sources) =
      firstFailure? (sources.map fun p => g.rendering values p.2) := by
  unfold renderUserMetadata
  cases sources with
  | nil => rfl
  | cons p rest =>
    rw [List.isEmpty_cons, if_neg Bool.false_ne_true, failure?_map, failure?_renderMetadata]

/-- What an upload is described by fails as the first step does that fails. -/
theorem failure?_withMetadata :
    failure? (g.withMetadata c values r) = firstFailure? (g.steps c values) := by
  simp only [steps, firstFailure?_append, Option.or_assoc, ← failure?_renderOptional,
    ← failure?_renderUserMetadata]
  rw [← failure?_withConfiguredHeaders]
  exact failure?_bind fun _ => failure?_bind fun _ => failure?_bind_pure

end Steps

/-! ## Lines -/

section Lines

variable {g : Gateway} {c : PutConfig} {values : Json} {source : String} {r : PutRequest}

theorem renderValue_supplies {value : Option String} (h : g.renderValue values source = .ok value)
    (line : String) : value = some line ↔ g.RendersLine values source line := by
  unfold renderValue at h
  unfold RendersLine
  cases hrender : g.engine.render source values with
  | error f =>
    rw [hrender] at h
    cases h
  | ok rendered =>
    rw [hrender] at h
    obtain rfl := Except.ok.inj h
    cases hempty : (Text.stripLineBreaks rendered).isEmpty with
    | true =>
      have hnothing := mt Text.stripLineBreaks_isEmpty_iff.2 (ne_true_of_eq_false · hempty)
      simp [hempty, hnothing]
    | false =>
      have hsome := Text.stripLineBreaks_isEmpty_iff.1 hempty
      have hline : Text.stripLineBreaks rendered = line ↔
          line.toList = rendered.toList.filter fun c => c ≠ '\r' ∧ c ≠ '\n' := by
        rw [← Text.toList_stripLineBreaks, String.toList_inj, eq_comm]
      simpa [hempty, hsome] using hline

theorem renderOptional_supplies {source value : Option String}
    (h : g.renderOptional values source = .ok value) : g.Supplies values source value := by
  intro line
  cases source with
  | none =>
    obtain rfl := Except.ok.inj h
    simp
  | some template =>
    unfold renderOptional at h
    cases hempty : template.isEmpty with
    | true =>
      obtain rfl : none = value := by simpa [hempty] using h
      simp [String.isEmpty_iff.1 hempty]
    | false =>
      have hne : template ≠ "" := fun hnil => by simp [hnil] at hempty
      rw [renderValue_supplies (by simpa [hempty] using h) line]
      simp [hne]

/-- The metadata are those that have a line, in the order of their templates. -/
theorem renderMetadata_lines {sources : List (String × String)} {m : TextMap String}
    (h : g.renderMetadata values sources = .ok m) :
    (m.map (·.1)).Sublist (sources.map (·.1)) ∧ ∀ name line, (name, line) ∈ m ↔
      ∃ template, (name, template) ∈ sources ∧ g.RendersLine values template line := by
  induction sources generalizing m with
  | nil =>
    obtain rfl := Except.ok.inj h
    simp
  | cons p rest ih =>
    obtain ⟨name, source⟩ := p
    obtain ⟨value, hvalue, hrest⟩ := bind_eq_ok_iff.1 h
    obtain ⟨others, hothers, hm⟩ := bind_eq_ok_iff.1 hrest
    obtain ⟨hsublist, hlines⟩ := ih hothers
    have hsupplies := renderValue_supplies hvalue
    have hfirst (n line : String) : value = some line ∧ n = name ↔
        ∃ template, (n, template) = (name, source) ∧ g.RendersLine values template line := by
      rw [hsupplies]
      simp [and_comm]
    have hmem (n line : String) : (∃ template, (n, template) ∈ (name, source) :: rest ∧
        g.RendersLine values template line) ↔ value = some line ∧ n = name ∨ (n, line) ∈ others := by
      simp only [List.mem_cons, or_and_right, exists_or, hfirst, hlines]
    cases value with
    | none =>
      obtain rfl : others = m := Except.ok.inj hm
      refine ⟨hsublist.cons name, fun n line => ?_⟩
      rw [hmem]
      simp
    | some v =>
      obtain rfl : (name, v) :: others = m := Except.ok.inj hm
      refine ⟨hsublist.cons_cons name, fun n line => ?_⟩
      rw [hmem, List.mem_cons]
      simp [eq_comm, and_comm]

theorem renderUserMetadata_lines {sources : TextMap String} {metadata : Option (TextMap String)}
    (h : g.renderUserMetadata values sources = .ok metadata) :
    (metadata = none ↔ sources = []) ∧ ∀ m, metadata = some m →
      (m.map (·.1)).Sublist (sources.map (·.1)) ∧ ∀ name line, (name, line) ∈ m ↔
        ∃ template, (name, template) ∈ sources ∧ g.RendersLine values template line := by
  unfold renderUserMetadata at h
  cases sources with
  | nil =>
    obtain rfl := Except.ok.inj h
    exact ⟨iff_of_true rfl rfl, nofun⟩
  | cons p rest =>
    rw [List.isEmpty_cons, if_neg Bool.false_ne_true] at h
    cases hlines : g.renderMetadata values (p :: rest) with
    | error f =>
      rw [hlines] at h
      cases h
    | ok lines =>
      rw [hlines] at h
      obtain rfl := Except.ok.inj h
      refine ⟨by simp, fun m hm => ?_⟩
      obtain rfl := Option.some.inj hm
      exact renderMetadata_lines hlines

/-- The expiry is the instant that its line denotes. -/
theorem renderExpires_instant {source : Option String} {expires : Option Instant}
    (h : g.renderExpires values source = .ok expires) :
    ∃ line, g.Supplies values source line ∧ ∀ t, expires = some t ↔
      ∃ text, line = some text ∧ Time.Denotes text t := by
  simp only [← Time.readTimestamp_eq_ok_iff]
  obtain ⟨line, hline, hread⟩ := bind_eq_ok_iff.1 h
  refine ⟨line, renderOptional_supplies hline, fun t => ?_⟩
  cases line with
  | none =>
    obtain rfl := Except.ok.inj hread
    simp
  | some text =>
    have hread : (readExpires text).map some = .ok expires := hread
    unfold readExpires at hread
    cases htime : Time.readTimestamp text with
    | error reason =>
      rw [htime] at hread
      cases hread
    | ok instant =>
      rw [htime] at hread
      obtain rfl := Except.ok.inj hread
      simp [htime]

theorem supplies_none : g.Supplies values none none := by
  intro line
  simp

/-- The headers of an object that has none are those that the configuration gives, and nothing else
of it is changed. -/
theorem withConfiguredHeaders_describes {input : PutInput} {key : String}
    (h : g.withConfiguredHeaders c values (plainRequest input key) = .ok r) :
    g.DescribesHeaders c.systemMetadata values r ∧ r.key = key ∧ r.body = input.body ∧
      r.contentType = input.contentType ∧ r.contentSize = input.contentSize := by
  unfold withConfiguredHeaders at h
  cases hsystem : c.systemMetadata with
  | none =>
    rw [hsystem] at h
    obtain rfl := Except.ok.inj h
    refine ⟨⟨supplies_none, supplies_none, supplies_none, supplies_none, none, supplies_none, ?_⟩,
      rfl, rfl, rfl, rfl⟩
    simp [plainRequest, PutRequest.plain]
  | some m =>
    rw [hsystem] at h
    obtain ⟨cacheControl, hcache, h⟩ := bind_eq_ok_iff.1 h
    obtain ⟨contentDisposition, hdisposition, h⟩ := bind_eq_ok_iff.1 h
    obtain ⟨contentEncoding, hencoding, h⟩ := bind_eq_ok_iff.1 h
    obtain ⟨contentLanguage, hlanguage, h⟩ := bind_eq_ok_iff.1 h
    obtain ⟨expires, hexpires, h⟩ := bind_eq_ok_iff.1 h
    obtain rfl := Except.ok.inj h
    exact ⟨⟨renderOptional_supplies hcache, renderOptional_supplies hdisposition,
      renderOptional_supplies hencoding, renderOptional_supplies hlanguage,
      renderExpires_instant hexpires⟩, rfl, rfl, rfl, rfl⟩

/-- Metadata that can be rendered describe the object of the upload. -/
theorem describes_of_withMetadata {input : PutInput} {key : String}
    (h : g.withMetadata c values (plainRequest input key) = .ok r) :
    g.Describes c values input key r := by
  obtain ⟨headed, hheaders, h⟩ := bind_eq_ok_iff.1 h
  obtain ⟨metadata, hmetadata, h⟩ := bind_eq_ok_iff.1 h
  obtain ⟨storageClass, hclass, h⟩ := bind_eq_ok_iff.1 h
  obtain rfl := Except.ok.inj h
  obtain ⟨hdescribed, hkey, hbody, htype, hsize⟩ := withConfiguredHeaders_describes hheaders
  obtain ⟨hnone, hlines⟩ := renderUserMetadata_lines hmetadata
  exact
    { cacheControl := hdescribed.cacheControl
      contentDisposition := hdescribed.contentDisposition
      contentEncoding := hdescribed.contentEncoding
      contentLanguage := hdescribed.contentLanguage
      expires := hdescribed.expires
      key := hkey
      body := hbody
      contentType := htype
      contentSize := hsize
      metadata := hnone
      metadataLines := hlines
      storageClass := renderOptional_supplies hclass
      cannedAcl := rfl }

end Lines

/-! ## Uploads -/

section Uploads

variable {g : Gateway} {c : PutConfig} {ctx : RequestContext} {input : PutInput}
  {t : Conversation GatewayInterface}

/-- What an upload that is described comes to: it is handed to the store, or refused for an object
that may be there. -/
inductive HandedOver (c : PutConfig) (key : String) (r : PutRequest)
    (t : Conversation GatewayInterface) : Prop
  | stored (reply : Answer ResultInfo) (h : called (.put r) reply ∈ t)
  | kept (reply : Answer (HeadOutput × ResultInfo)) (h : called (.head key) reply ∈ t)
      (hfound : reply ≠ .error .notFound) (hkeeps : c.allowOverride = false)

/-- How an upload whose metadata have templates is stored and answered. -/
structure DescribedUpload (g : Gateway) (c : PutConfig) (ctx : RequestContext) (input : PutInput)
    (t : Conversation GatewayInterface) : Prop where
  /-- What is stored is described by the templates. -/
  stores : ∀ r reply, called (.put r) reply ∈ t →
    ∃ key, g.objectKey ctx (uploadPath input) = .ok key ∧
      g.Describes c (putValues ctx input key) input key r
  /-- What is told of a stored object is what was stored. -/
  echoes : ∀ echo, answered (.stored echo) ∈ t → ∃ r info, called (.put r) (.ok info) ∈ t ∧
    echo = ⟨r.key, r.contentType, r.contentSize, r.metadata.getD [], r.storageClass.getD "",
      input.filename⟩
  /-- The first failure in order is the answer, and nothing else comes of the upload. -/
  fails : ∀ key, g.objectKey ctx (uploadPath input) = .ok key →
    ∀ f, firstFailure? (g.steps c (putValues ctx input key)) = some f →
      t = [answered (failureOutcome f)]
  /-- Without a failure, the object is handed over. -/
  succeeds : ∀ key, g.objectKey ctx (uploadPath input) = .ok key →
    firstFailure? (g.steps c (putValues ctx input key)) = none →
      ∃ r, g.Describes c (putValues ctx input key) input key r ∧ HandedOver c key r t

theorem uploadRequest_describes {key : String} {r : PutRequest} (hc : g.putConfig? = some c)
    (h : g.uploadRequest ctx input key = .ok r) :
    g.Describes c (putValues ctx input key) input key r := by
  rw [uploadRequest, hc] at h
  exact describes_of_withMetadata h

theorem failure?_uploadRequest {key : String} (hc : g.putConfig? = some c) :
    failure? (g.uploadRequest ctx input key) =
      firstFailure? (g.steps c (putValues ctx input key)) := by
  rw [uploadRequest, hc]
  exact failure?_withMetadata

/-- The question for an object in front of an upload is the only call of the store there. -/
theorem put_notMem_absenceCheck {key : String} {r : PutRequest} {reply : Answer ResultInfo} :
    called (.put r) reply ∉ g.absenceCheck key := by
  unfold absenceCheck
  split <;> simp

theorem WriteRun.put_mem {r : PutRequest} {reply : Answer ResultInfo} (h : WriteRun g ctx input t)
    (hput : called (.put r) reply ∈ t) :
    ∃ key, g.objectKey ctx (uploadPath input) = .ok key ∧ g.uploadRequest ctx input key = .ok r := by
  cases h with
  | unrewritten | unrendered | occupied | unknown => simp at hput
  | @unstored key r' f hkey hrequest =>
    rcases List.mem_append.1 hput with hput | hput
    · exact absurd hput put_notMem_absenceCheck
    · obtain ⟨rfl, -⟩ := by simpa using hput
      exact ⟨key, hkey, hrequest⟩
  | @stored key r' info hkey hrequest =>
    rcases List.mem_append.1 hput with hput | hput
    · exact absurd hput put_notMem_absenceCheck
    · obtain ⟨rfl, -⟩ := by simpa using hput
      exact ⟨key, hkey, hrequest⟩

theorem WriteRun.handedOver {key : String} {r : PutRequest} (h : WriteRun g ctx input t)
    (hc : g.putConfig? = some c) (hkey : g.objectKey ctx (uploadPath input) = .ok key)
    (hrequest : g.uploadRequest ctx input key = .ok r) : HandedOver c key r t := by
  have hkeeps (hkept : g.keepsObjects = true) : c.allowOverride = false := by
    simpa [keepsObjects, hc] using hkept
  cases h with
  | unrewritten hkey' => cases hkey'.symm.trans hkey
  | unrendered hkey' hrequest' =>
    cases hkey'.symm.trans hkey
    cases hrequest'.symm.trans hrequest
  | @occupied key' r' found hkey' hrequest' hkept =>
    cases hkey'.symm.trans hkey
    exact .kept (.ok found) List.mem_cons_self nofun (hkeeps hkept)
  | @unknown key' r' f hkey' hrequest' hkept hf =>
    cases hkey'.symm.trans hkey
    exact .kept (.error f) List.mem_cons_self (hf <| Except.error.inj ·) (hkeeps hkept)
  | unstored hkey' hrequest' =>
    cases hkey'.symm.trans hkey
    cases hrequest'.symm.trans hrequest
    exact .stored _ (List.mem_append_right _ List.mem_cons_self)
  | stored hkey' hrequest' =>
    cases hkey'.symm.trans hkey
    cases hrequest'.symm.trans hrequest
    exact .stored _ (List.mem_append_right _ List.mem_cons_self)

theorem stored_ne_failureOutcome (echo : PutEcho) (f : Failure) :
    .stored echo ≠ failureOutcome f := by
  cases f <;> nofun

theorem stored_notMem_absenceCheck {key : String} {echo : PutEcho} :
    answered (.stored echo) ∉ g.absenceCheck key := by
  unfold absenceCheck
  split <;> simp

/-- What is told of a stored object is what was stored. -/
theorem WriteRun.echo {echo : PutEcho} (h : WriteRun g ctx input t)
    (hecho : answered (.stored echo) ∈ t) :
    ∃ key r info, g.uploadRequest ctx input key = .ok r ∧ called (.put r) (.ok info) ∈ t ∧
      echo = putEcho input r := by
  cases h with
  | unrewritten | unrendered | unknown | occupied => simp [stored_ne_failureOutcome] at hecho
  | unstored => simp [stored_notMem_absenceCheck, stored_ne_failureOutcome] at hecho
  | @stored key r info hkey hrequest =>
    obtain rfl : echo = putEcho input r := by simpa [stored_notMem_absenceCheck] using hecho
    exact ⟨key, r, info, hrequest, List.mem_append_right _ List.mem_cons_self, rfl⟩

/-- What is kept with the object of an upload is what the templates of the configuration give, and
the first template that fails is the answer. -/
theorem upload_described (hc : g.putConfig? = some c) (h : (g.write ctx input).Runs t ()) :
    DescribedUpload g c ctx input t := by
  have hrun := WriteRun.of_runs h
  refine ⟨fun r reply hput => ?_, fun echo hecho => ?_, fun key hkey f hf => ?_,
    fun key hkey hnone => ?_⟩
  · obtain ⟨key, hkey, hrequest⟩ := hrun.put_mem hput
    exact ⟨key, hkey, uploadRequest_describes hc hrequest⟩
  · obtain ⟨key, r, info, hrequest, hput, rfl⟩ := hrun.echo hecho
    have hdescribed := uploadRequest_describes hc hrequest
    refine ⟨r, info, hput, ?_⟩
    rw [putEcho, hdescribed.contentType, hdescribed.contentSize]
  · rw [← failure?_uploadRequest hc] at hf
    have hrequest := failure?_eq_some_iff.1 hf
    cases hrun with
    | unrendered hkey' hrequest' =>
      cases hkey'.symm.trans hkey
      cases hrequest'.symm.trans hrequest
      rfl
    | unrewritten hkey' => cases hkey'.symm.trans hkey
    | occupied hkey' hrequest' | unknown hkey' hrequest' | unstored hkey' hrequest' | stored hkey' hrequest' =>
      cases hkey'.symm.trans hkey
      cases hrequest'.symm.trans hrequest
  · rw [← failure?_uploadRequest hc] at hnone
    obtain ⟨r, hrequest⟩ := failure?_eq_none_iff.1 hnone
    exact ⟨r, uploadRequest_describes hc hrequest, hrun.handedOver hc hkey hrequest⟩

end Uploads

/-- An engine whose templates are texts without any tags. -/
def plainEngine : TemplateEngine := ⟨fun source _ => .ok source, fun source _ => .ok source⟩

/-- An upload with a header of two lines, one of nothing but a line break, an expiry, and metadata
of which one renders to nothing. -/
theorem upload_described_docs :
    let system : SystemMetadata :=
      ⟨some "no-\r\nstore", some "\n", none, some "", some "2024-02-29T12:00:00+01:00\n"⟩
    let c : PutConfig :=
      ⟨[("by", "us\n"), ("for", "\r\n")], some system, some "COLD", true, none, []⟩
    let g := { docs [] ⟨none, some ⟨true, some c⟩, none⟩ with engine := plainEngine }
    let input : PutInput := ⟨"/a/", "b", "text/plain", 2, [104, 105]⟩
    let t := ((g.write default input).converse (MemoryStore.serve fun _ => .ok ())
      (.ofObjects [])).exchanges
    DescribedUpload g c default input t ∧
      t.changes = [.put
        { PutRequest.plain "a/b" [104, 105] "text/plain" 2 with
          cacheControl := some "no-store"
          expires := some ⟨1709204400, 0⟩
          metadata := some [("by", "us")]
          storageClass := some "COLD" }] := by
  intro system c g input t
  exact ⟨upload_described rfl (Flow.converse_runs _ _ _), by decide +kernel⟩

end ObjectGateway.Gateway
