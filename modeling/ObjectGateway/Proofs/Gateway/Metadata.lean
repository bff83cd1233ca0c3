import ObjectGateway.Gateway.Put
import ObjectGateway.Proofs.Failure

/-!
# The metadata of uploads

When the metadata of an object cannot be rendered, and what rendering it leaves alone.  The main
statements are `withMetadata_fails_iff`, by which metadata fail exactly if one of the templates fails
or an expiry is no instant, and `withMetadata_yields`: the key and the content stay.
-/

namespace ObjectGateway

/-- A failure that is not the fault of a request. -/
def Failure.IsOpaque : Failure → Prop
  | .objectExists _ | .removalFolder | .badRequest _ => False
  | _ => True

/-- An engine fails only with failures of templates. -/
def TemplateEngine.FailsAsTemplate (e : TemplateEngine) : Prop :=
  ∀ source context, FailsOnly (fun f => ∃ reason, f = .template reason) (e.render source context)

theorem TemplateEngine.standard_failsAsTemplate : standard.FailsAsTemplate := by
  intro source context f hf
  have hf : renderWith false source context = .error f := hf
  unfold renderWith at hf
  revert hf
  generalize (do
    let stmts ← Template.read source
    Template.render ⟨.ofJson context, false, Template.blocksOf stmts⟩ stmts) = result
  cases result with
  | error e =>
    -- Whatever the reason of a failure is, the text of it becomes that of a template's failure.
    rintro ⟨⟩
    exact ⟨_, rfl⟩
  | ok s => rintro ⟨⟩

/-- The source of a template that need not be there; an empty one is not rendered. -/
def givenSource : Option String → List String
  | some source => if source.isEmpty then [] else [source]
  | none => []

/-- The templates of the headers that are kept with an object. -/
def SystemMetadata.sources (m : SystemMetadata) : List String :=
  givenSource m.cacheControl ++ givenSource m.contentDisposition ++
    givenSource m.contentEncoding ++ givenSource m.contentLanguage ++ givenSource m.expires

/-- The templates that are rendered for an upload. -/
def PutConfig.sources (c : PutConfig) : List String :=
  c.systemMetadata.elim [] SystemMetadata.sources ++ c.metadata.map (·.2) ++
    givenSource c.storageClass

namespace Gateway

variable {g : Gateway} {values : Json}

theorem failureOutcome_of_isOpaque {f : Failure} (hf : f.IsOpaque) :
    failureOutcome f = .internalServerError f := by
  cases f with
  | objectExists key => exact hf.elim
  | removalFolder => exact hf.elim
  | badRequest reason => exact hf.elim
  | _ => rfl

/-! ## When metadata cannot be rendered -/

/-- Some template cannot be rendered. -/
def TemplateFails (g : Gateway) (values : Json) (sources : List String) : Prop :=
  ∃ source ∈ sources, Fails (g.engine.render source values)

/-- The text for an expiry is no instant. -/
def ExpiryFails (g : Gateway) (values : Json) (source : Option String) : Prop :=
  ∃ text reason, g.renderOptional values source = .ok (some text) ∧
    Time.readTimestamp text = .error reason

/-- The metadata of an upload cannot be rendered. -/
def MetadataFails (g : Gateway) (c : PutConfig) (values : Json) : Prop :=
  g.TemplateFails values c.sources ∨
    ∃ m, c.systemMetadata = some m ∧ g.ExpiryFails values m.expires

theorem templateFails_append_iff {as bs : List String} :
    g.TemplateFails values (as ++ bs) ↔ g.TemplateFails values as ∨ g.TemplateFails values bs := by
  simp only [TemplateFails, List.mem_append, or_and_right, exists_or]

theorem renderValue_fails_iff {source : String} :
    Fails (g.renderValue values source) ↔ Fails (g.engine.render source values) := fails_map_iff

theorem renderOptional_fails_iff {source : Option String} :
    Fails (g.renderOptional values source) ↔ g.TemplateFails values (givenSource source) := by
  cases source with
  | none => simp [renderOptional, TemplateFails, givenSource]
  | some source =>
    cases hempty : source.isEmpty with
    | true => simp [renderOptional, TemplateFails, givenSource, hempty]
    | false => simp [renderOptional, TemplateFails, givenSource, hempty, renderValue_fails_iff]

theorem readExpires_fails_iff {text : String} :
    Fails (readExpires text) ↔ ∃ reason, Time.readTimestamp text = .error reason := by
  unfold readExpires
  cases Time.readTimestamp text with
  | error reason => simp
  | ok t => simp

theorem renderExpires_fails_iff {source : Option String} :
    Fails (g.renderExpires values source) ↔
      g.TemplateFails values (givenSource source) ∨ g.ExpiryFails values source := by
  rw [← renderOptional_fails_iff]
  unfold renderExpires ExpiryFails
  cases htext : g.renderOptional values source with
  | error f => exact iff_of_true (fails_error f) (.inl (fails_error f))
  | ok text =>
    cases text with
    | none =>
      refine iff_of_false (not_fails_ok _) ?_
      simp
    | some text =>
      show Fails ((readExpires text).map some) ↔ _
      rw [fails_map_iff, readExpires_fails_iff]
      simp

theorem withSystemMetadata_fails_iff {m : SystemMetadata} {r : PutRequest} :
    Fails (g.withSystemMetadata values m r) ↔
      g.TemplateFails values m.sources ∨ g.ExpiryFails values m.expires := by
  unfold withSystemMetadata SystemMetadata.sources
  -- The expiry is rendered last, so that both of its ways to fail stand together at the end.
  simp only [templateFails_append_iff, or_assoc, ← renderExpires_fails_iff]
  simp only [← renderOptional_fails_iff]
  exact fails_bind_iff fun _ => fails_bind_iff fun _ => fails_bind_iff fun _ =>
    fails_bind_iff fun _ => fails_bind_pure_iff

theorem renderMetadata_fails_iff {sources : List (String × String)} :
    Fails (g.renderMetadata values sources) ↔ g.TemplateFails values (sources.map (·.2)) := by
  induction sources with
  | nil => simp [renderMetadata, TemplateFails]
  | cons p rest ih =>
    have hrest : Fails (g.renderMetadata values (p :: rest)) ↔
        Fails (g.renderValue values p.2) ∨ Fails (g.renderMetadata values rest) :=
      fails_bind_iff fun _ => fails_bind_pure_iff
    rw [hrest, ih, renderValue_fails_iff]
    simp [TemplateFails]

theorem withConfiguredHeaders_fails_iff {c : PutConfig} {r : PutRequest} :
    Fails (g.withConfiguredHeaders c values r) ↔
      g.TemplateFails values (c.systemMetadata.elim [] SystemMetadata.sources) ∨
        ∃ m, c.systemMetadata = some m ∧ g.ExpiryFails values m.expires := by
  unfold withConfiguredHeaders
  cases c.systemMetadata with
  | none => simp [TemplateFails]
  | some m => simp [withSystemMetadata_fails_iff]

theorem renderUserMetadata_fails_iff {sources : TextMap String} :
    Fails (g.renderUserMetadata values sources) ↔
      g.TemplateFails values (sources.map (·.2)) := by
  unfold renderUserMetadata
  cases sources with
  | nil => simp [TemplateFails]
  | cons p rest => simp [renderMetadata_fails_iff]

/-- Rendering fails exactly if one of the templates does or the text for the expiry is no instant,
whatever the others render to. -/
theorem withMetadata_fails_iff {c : PutConfig} {r : PutRequest} :
    Fails (g.withMetadata c values r) ↔ g.MetadataFails c values := by
  have hsteps : Fails (g.withMetadata c values r) ↔
      Fails (g.withConfiguredHeaders c values r) ∨ Fails (g.renderUserMetadata values c.metadata) ∨
        Fails (g.renderOptional values c.storageClass) :=
    fails_bind_iff fun _ => fails_bind_iff fun _ => fails_bind_pure_iff
  rw [hsteps, withConfiguredHeaders_fails_iff, renderUserMetadata_fails_iff,
    renderOptional_fails_iff, MetadataFails, PutConfig.sources, templateFails_append_iff,
    templateFails_append_iff]
  simp only [or_assoc, or_comm, or_left_comm]

/-! ## How rendering fails -/

variable {P : Failure → Prop}

theorem renderValue_failsOnly {source : String}
    (hengine : FailsOnly P (g.engine.render source values)) :
    FailsOnly P (g.renderValue values source) := hengine.map _

theorem renderOptional_failsOnly (hengine : ∀ source, FailsOnly P (g.engine.render source values))
    (source : Option String) : FailsOnly P (g.renderOptional values source) := by
  unfold renderOptional
  split
  · exact failsOnly_ok _
  · split
    · exact failsOnly_ok _
    · exact renderValue_failsOnly (hengine _)

theorem renderExpires_failsOnly (hengine : ∀ source, FailsOnly P (g.engine.render source values))
    (hexpiry : ∀ reason, P (.internal reason)) (source : Option String) :
    FailsOnly P (g.renderExpires values source) := by
  refine (renderOptional_failsOnly hengine source).bind fun text => ?_
  cases text with
  | none => exact failsOnly_ok _
  | some text =>
    have hread : FailsOnly P (readExpires text) := by
      unfold readExpires
      split
      · exact failsOnly_ok _
      · exact failsOnly_error (hexpiry _)
    exact hread.map some

theorem renderMetadata_failsOnly (hengine : ∀ source, FailsOnly P (g.engine.render source values))
    (sources : List (String × String)) : FailsOnly P (g.renderMetadata values sources) := by
  induction sources with
  | nil => exact failsOnly_ok _
  | cons p rest ih =>
    exact (renderValue_failsOnly (hengine p.2)).bind fun _ => ih.bind fun _ => failsOnly_ok _

/-- The failures of rendering are those of the engine and those of an expiry. -/
theorem withMetadata_failsOnly (hengine : ∀ source, FailsOnly P (g.engine.render source values))
    (hexpiry : ∀ reason, P (.internal reason)) (c : PutConfig) (r : PutRequest) :
    FailsOnly P (g.withMetadata c values r) := by
  have hoptional := renderOptional_failsOnly hengine
  have hheaders : FailsOnly P (g.withConfiguredHeaders c values r) := by
    unfold withConfiguredHeaders
    split
    · exact (hoptional _).bind fun _ => (hoptional _).bind fun _ => (hoptional _).bind fun _ =>
        (hoptional _).bind fun _ => (renderExpires_failsOnly hengine hexpiry _).bind fun _ =>
          failsOnly_ok _
    · exact failsOnly_ok _
  have huser : FailsOnly P (g.renderUserMetadata values c.metadata) := by
    unfold renderUserMetadata
    split
    · exact failsOnly_ok _
    · exact (renderMetadata_failsOnly hengine _).map some
  exact hheaders.bind fun _ => huser.bind fun _ => (hoptional _).bind fun _ => failsOnly_ok _

/-! ## What rendering leaves alone -/

/-- The key and the content of an object stay when its metadata are added. -/
theorem withMetadata_yields (g : Gateway) (c : PutConfig) (values : Json) (r : PutRequest) :
    Yields (fun r' => r'.key = r.key ∧ r'.body = r.body) (g.withMetadata c values r) := by
  have hheaders : Yields (fun r' => r'.key = r.key ∧ r'.body = r.body)
      (g.withConfiguredHeaders c values r) := by
    unfold withConfiguredHeaders
    split
    · exact Yields.bind fun _ _ => Yields.bind fun _ _ => Yields.bind fun _ _ =>
        Yields.bind fun _ _ => Yields.bind fun _ _ => yields_ok ⟨rfl, rfl⟩
    · exact yields_ok ⟨rfl, rfl⟩
  exact Yields.bind fun r' hr' => Yields.bind fun _ _ => Yields.bind fun _ _ =>
    yields_ok (hheaders r' hr')

end Gateway

end ObjectGateway
