import ObjectGateway.Hook.Queue
import ObjectGateway.Proofs.Config.Valid
import ObjectGateway.Proofs.Conversation
import ObjectGateway.Proofs.Failure
import ObjectGateway.Proofs.TextMap
import ObjectGateway.Registry

/-!
# Reloading configurations

The targets that are served and the hooks that are told of them are loaded together.  A registry with
a queue of events is followed through any number of reloads, each with a configuration of its own and
with surroundings in which anything may fail, while events come and are delivered in between.
`reload_atomic` says that a reload either puts a whole configuration in force or changes nothing, so
that targets and hooks always come from the same one.

Templates may be kept in the buckets of targets, so what is in force depends on what the stores
replied while it was loaded.  `TemplatesRead` and `HelpersLoaded` say how the texts of the helpers
are taken from such a conversation.
-/

namespace ObjectGateway

/-! ## Helpers -/

/-- Templates have been read in order: those in a bucket with one call of its store each, the others
from local files. -/
inductive TemplatesRead (files : LocalFiles) :
    List TemplateItem → Conversation StoreInterface → List String → Prop
  | nil : TemplatesRead files [] [] []
  | file {path text : String} {items : List TemplateItem} {t : Conversation StoreInterface}
      {texts : List String} (htext : files.readText path = .ok text)
      (hrest : TemplatesRead files items t texts) :
      TemplatesRead files (⟨path, false⟩ :: items) t (text :: texts)
  | bucket {path text : String} {items : List TemplateItem} {t : Conversation StoreInterface}
      {texts : List String} {output : GetOutput} {info : ResultInfo} {content : Bytes}
      (hcontent : output.body.collect = .ok content) (htext : Text.Utf8.decode? content = some text)
      (hrest : TemplatesRead files items t texts) :
      TemplatesRead files (⟨path, true⟩ :: items) (⟨.get path .none, .ok (output, info)⟩ :: t)
        (text :: texts)

/-- A call of a store, as one of the store of a target. -/
def Exchange.atBucket (c : TargetConfig) (e : Exchange StoreInterface) :
    Exchange BucketsInterface :=
  ⟨(c, e.op), e.reply⟩

/-- Targets have got their helpers one after the other.  The helpers of a target itself stand in
front of those for every target. -/
inductive HelpersLoaded (files : LocalFiles) (globalHelpers : List String) :
    List TargetConfig → Conversation BucketsInterface → List Target → Prop
  | nil : HelpersLoaded files globalHelpers [] [] []
  | cons {c : TargetConfig} {target : Target} {own : List String} {t : Conversation StoreInterface}
      {cs : List TargetConfig} {targets : List Target} {u : Conversation BucketsInterface}
      (hown : TemplatesRead files c.templates.helpers t own)
      (htarget : target.helpers = joinLines (own ++ globalHelpers))
      (hrest : HelpersLoaded files globalHelpers cs u targets) :
      HelpersLoaded files globalHelpers (c :: cs) (t.map (·.atBucket c) ++ u) (target :: targets)

/-! ## What is in force -/

/-- A configuration that is about to be loaded, and what it is loaded with. -/
structure Reload where
  config : Config
  surroundings : Surroundings
  /-- Open the store of a target, or fail. -/
  openStore : TargetConfig → Answer Unit

namespace Reload

/-- Load the configuration into a registry whose hooks are those of a queue. -/
def run (a : Reload) (r : Registry HookQueue) :
    Flow BucketsInterface (Answer Unit × Registry HookQueue) :=
  r.reload ⟨a.surroundings.files, a.openStore, fun ts q => q.load a.surroundings ts⟩ a.config

/-- The hooks of a target are those of its configuration, in the order of the configuration. -/
structure HooksInForce (a : Reload) (t : TargetConfig) (h : ActionHooks) : Prop where
  get : List.Forall₂ (fun w hook => Hook.ofConfig a.surroundings w = .ok hook)
    t.actions.getWebhooks h.get
  put : List.Forall₂ (fun w hook => Hook.ofConfig a.surroundings w = .ok hook)
    t.actions.putWebhooks h.put
  delete : List.Forall₂ (fun w hook => Hook.ofConfig a.surroundings w = .ok hook)
    t.actions.deleteWebhooks h.delete

/-- A registry holds a configuration as a whole, and nothing else.  What is kept in buckets is as
the stores replied in a conversation. -/
structure InForce (a : Reload) (t : Conversation BucketsInterface) (r : Registry HookQueue) :
    Prop where
  targets : List.Forall₂ (fun c target => target.config = c ∧
    Rule.ofConfigs c.rules = .ok target.rules) a.config.targets r.snapshot.targets
  templates : r.snapshot.templates = a.config.templates
  helpers : ∃ texts,
    a.config.templates.helpers.mapM (readLocal a.surroundings.files) = .ok texts ∧
      r.snapshot.globalHelpers = joinLines texts ∧
      HelpersLoaded a.surroundings.files texts a.config.targets t r.snapshot.targets
  /-- The table has one entry for each target, and none for any other name. -/
  names : (TextMap.keys r.hooks.table).Perm (a.config.targets.map (·.name))
  hooks : ∀ t ∈ a.config.targets,
    ∃ h, TextMap.get? t.name r.hooks.table = some h ∧ a.HooksInForce t h

end Reload

/-- What happens to a queue between reloads: events come, batches are offered, taken and delivered,
and the queue is closed. -/
inductive HookQueue.Step : HookQueue → HookQueue → Prop
  | look (q : HookQueue) (e : HookEvent) : Step q (q.look e)
  | offer (q : HookQueue) (i : Nat) : Step q (q.offer i)
  | take (q : HookQueue) : Step q q.take
  | finish (q : HookQueue) (i : Nat) (cs : List Count) : Step q (q.finish i cs)
  | close (q : HookQueue) : Step q q.close

/-- A reload that has been made, with the calls of stores that were made meanwhile and with what
came of it. -/
structure PastReload where
  reload : Reload
  exchanges : Conversation BucketsInterface
  result : Answer Unit

/-- Valid configurations have been loaded one after the other, with what came of each, and have left
a registry behind. -/
inductive Reloaded : List PastReload → Registry HookQueue → Prop
  | start (workers capacity : Nat) : Reloaded [] ⟨.empty, .start workers capacity⟩
  | step {history : List PastReload} {r : Registry HookQueue} {q : HookQueue}
      (h : Reloaded history r) (hstep : r.hooks.Step q) : Reloaded history { r with hooks := q }
  | reload {history : List PastReload} {r r' : Registry HookQueue} {a : Reload}
      {result : Answer Unit} {t : Conversation BucketsInterface} (h : Reloaded history r)
      (hvalid : a.config.validate = .ok ()) (hrun : (a.run r).Runs t (result, r')) :
      Reloaded (history ++ [⟨a, t, result⟩]) r'

/-- The last of some reloads that did not fail. -/
def lastLoaded (history : List PastReload) : Option PastReload :=
  history.foldl (fun last p => if p.result = .ok () then some p else last) none

/-- What is in force after some reloads: the configuration of the last one that did not fail, with
the helpers that were read for it, or nothing. -/
def InForceAfter (history : List PastReload) (r : Registry HookQueue) : Prop :=
  match lastLoaded history with
  | none => r.snapshot = .empty ∧ r.hooks.table = []
  | some p => p.reload.InForce p.exchanges r

/-! ## Hooks -/

theorem exists_of_forall₂_mem {α β : Type} {R : α → β → Prop} {as : List α} {bs : List β}
    (h : List.Forall₂ R as bs) {a : α} (ha : a ∈ as) : ∃ b ∈ bs, R a b := by
  induction h with
  | nil => cases ha
  | @cons a' b as bs hab _ ih =>
    rcases List.mem_cons.1 ha with rfl | ha
    · exact ⟨b, List.mem_cons_self, hab⟩
    · obtain ⟨b', hb', hr⟩ := ih ha
      exact ⟨b', List.mem_cons_of_mem _ hb', hr⟩

section Hooks

variable {a : Reload} {ts : List TargetConfig} {table : HookTable}

theorem hooksInForce_of_ofTarget {t : TargetConfig} {h : ActionHooks}
    (hh : ActionHooks.ofTarget a.surroundings t = .ok h) : a.HooksInForce t h := by
  unfold ActionHooks.ofTarget at hh
  obtain ⟨get, hget, hh⟩ := bind_eq_ok_iff.1 hh
  obtain ⟨put, hput, hh⟩ := bind_eq_ok_iff.1 hh
  obtain ⟨delete, hdelete, hh⟩ := bind_eq_ok_iff.1 hh
  cases hh
  exact ⟨mapM_eq_ok_iff.1 hget, mapM_eq_ok_iff.1 hput, mapM_eq_ok_iff.1 hdelete⟩

/-- What is prepared for some targets are their names with their hooks, in order. -/
theorem prepare_eq_ok {w : Surroundings} {ps : List (String × ActionHooks)}
    (h : HookTable.prepare w ts = .ok ps) :
    List.Forall₂ (fun t p => p.1 = t.name ∧ ActionHooks.ofTarget w t = .ok p.2) ts ps := by
  refine (mapM_eq_ok_iff.1 h).imp fun t p hp => ?_
  cases hooks : ActionHooks.ofTarget w t with
  | error f =>
    rw [hooks] at hp
    cases hp
  | ok hooks' =>
    rw [hooks] at hp
    cases hp
    exact ⟨rfl, rfl⟩

theorem names_of_prepared {w : Surroundings} {ps : List (String × ActionHooks)}
    (h : List.Forall₂ (fun t p => p.1 = t.name ∧ ActionHooks.ofTarget w t = .ok p.2) ts ps) :
    ps.map Prod.fst = ts.map (·.name) := by
  induction h with
  | nil => rfl
  | cons hp _ ih => rw [List.map_cons, List.map_cons, ih, hp.1]

/-- Hooks that cannot be prepared leave the table as it is. -/
theorem load_error {w : Surroundings} {table' : HookTable} {f : Failure}
    (h : HookTable.load w ts table = (.error f, table')) : table' = table := by
  unfold HookTable.load at h
  split at h
  · cases h
    rfl
  · cases h

theorem queue_load_error {w : Surroundings} {q q' : HookQueue} {f : Failure}
    (h : q.load w ts = (.error f, q')) : q' = q := by
  unfold HookQueue.load at h
  cases hload : HookTable.load w ts q.table with
  | mk result table' =>
    rw [hload] at h
    obtain ⟨rfl, rfl⟩ : result = .error f ∧ { q with table := table' } = q' := by simpa using h
    rw [load_error hload]

theorem queue_load_ok {w : Surroundings} {q q' : HookQueue} (h : q.load w ts = (.ok (), q')) :
    HookTable.load w ts q.table = (.ok (), q'.table) := by
  unfold HookQueue.load at h
  cases hload : HookTable.load w ts q.table with
  | mk result table' =>
    rw [hload] at h
    obtain ⟨rfl, rfl⟩ : result = .ok () ∧ { q with table := table' } = q' := by simpa using h
    rfl

/-- A table that has been loaded holds the hooks of the targets, whatever it held before. -/
theorem load_ok {w : Surroundings} {table' : HookTable}
    (h : HookTable.load w ts table = (.ok (), table')) (hordered : TextMap.Ordered table)
    (hnodup : (ts.map (·.name)).Nodup) :
    TextMap.Ordered table' ∧ (TextMap.keys table').Perm (ts.map (·.name)) ∧
      ∀ t ∈ ts, ∃ hooks, TextMap.get? t.name table' = some hooks ∧
        ActionHooks.ofTarget w t = .ok hooks := by
  unfold HookTable.load at h
  split at h
  · cases h
  · rename_i ps hprepare
    cases h
    have hps := prepare_eq_ok hprepare
    have hnames : ps.map Prod.fst = ts.map (·.name) := names_of_prepared hps
    have hnodup' : (ps.map Prod.fst).Nodup := by rwa [hnames]
    have hordered' := (hordered.retain (ts.map (·.name))).insertAll ps
    refine ⟨hordered', ?_, ?_⟩
    -- Neither list of names holds one twice, so that it suffices to compare their members.
    · refine (List.perm_ext_iff_of_nodup hordered'.nodup hnodup).2 fun name => ?_
      rw [TextMap.mem_keys_iff]
      by_cases hname : name ∈ ts.map (·.name)
      · have hmem : name ∈ ps.map Prod.fst := by rwa [hnames]
        obtain ⟨p, hp, rfl⟩ := List.mem_map.1 hmem
        rw [TextMap.get?_insertAll_of_mem hp hnodup']
        simp [hname]
      · -- Only hooks of the targets are kept or put.
        rw [TextMap.get?_insertAll_of_notMem (by rwa [hnames]), TextMap.get?_retain, if_neg hname]
        simp [hname]
    · intro t ht
      obtain ⟨p, hp, hname, hhooks⟩ := exists_of_forall₂_mem hps ht
      rw [← hname, TextMap.get?_insertAll_of_mem hp hnodup']
      exact ⟨p.2, rfl, hhooks⟩

end Hooks

/-! ## Templates -/

section Templates

variable {files : LocalFiles} {items : List TemplateItem} {t : Conversation StoreInterface}
  {text : String} {texts : List String}

theorem readText_eq_ok_iff {key : String} {body : ObjectStream} :
    readText key body = .ok text ↔
      ∃ content, body.collect = .ok content ∧ Text.Utf8.decode? content = some text := by
  unfold readText
  cases body.collect with
  | error f => simp
  | ok content =>
    cases hdecode : Text.Utf8.decode? content with
    | none => simp [hdecode]
    | some s => simp [hdecode]

theorem readLocal_eq_ok_iff {path : String} :
    readLocal files path = .ok text ↔ files.readText path = .ok text := by
  unfold readLocal
  cases files.readText path with
  | error e => simp
  | ok s => simp

/-- A template that has been read comes in front of others that have been read after it. -/
theorem TemplatesRead.after {item : TemplateItem} {u : Conversation StoreInterface}
    (hfirst : (readTemplate files item).Runs u (.ok text))
    (hrest : TemplatesRead files items t texts) :
    TemplatesRead files (item :: items) (u ++ t) (text :: texts) := by
  obtain ⟨path, inBucket⟩ := item
  cases inBucket with
  | false =>
    obtain ⟨rfl, htext⟩ : u = [] ∧ .ok text = readLocal files path := by
      simpa [readTemplate] using hfirst
    exact .file (readLocal_eq_ok_iff.1 htext.symm) hrest
  | true =>
    have hread : (readObject path).Runs u (.ok text) := by simpa [readTemplate] using hfirst
    obtain ⟨reply, rest, hreply, rfl⟩ := Flow.runs_call_iff.1 hread
    rcases reply with f | ⟨output, info⟩
    · simp at hreply
    · obtain ⟨rfl, htext⟩ := Flow.runs_done_iff.1 hreply
      obtain ⟨content, hcontent, hdecode⟩ := readText_eq_ok_iff.1 htext.symm
      exact .bucket hcontent hdecode hrest

theorem readTemplates_runs (h : (readTemplates files items).Runs t (.ok texts)) :
    TemplatesRead files items t texts := by
  induction items generalizing t texts with
  | nil =>
    obtain ⟨rfl, rfl⟩ : t = [] ∧ texts = [] := by simpa [readTemplates] using h
    exact .nil
  | cons item rest ih =>
    obtain ⟨text, t₁, t₂, hfirst, hnext, rfl⟩ := h.ok_of_bind fun _ => rfl
    obtain ⟨others, t₃, t₄, hothers, hlast, rfl⟩ := hnext.ok_of_bind fun _ => rfl
    obtain ⟨rfl, rfl⟩ : t₄ = [] ∧ texts = text :: others := by simpa using hlast
    rw [List.append_nil]
    exact (ih hothers).after hfirst

end Templates

/-! ## Targets -/

section Targets

variable {H : Type} {l : Loader H} {globalHelpers : List String}
  {t : Conversation BucketsInterface}

theorem callBucket_runs_iff {α : Type} {c : TargetConfig} {x : Flow StoreInterface α} {a : α} :
    (callBucket c x).Runs t a ↔ ∃ u, x.Runs u a ∧ t = u.map (·.atBucket c) :=
  Flow.runs_translate_iff fun _ _ _ => Flow.runs_ask_iff

/-- A target that has been loaded has the rules of its configuration, and its own helpers in front
of those for every target. -/
theorem loadTarget_runs {c : TargetConfig} {target : Target}
    (h : (l.loadTarget globalHelpers c).Runs t (.ok target)) :
    (target.config = c ∧ Rule.ofConfigs c.rules = .ok target.rules) ∧
      ∃ u own, TemplatesRead l.files c.templates.helpers u own ∧ t = u.map (·.atBucket c) ∧
        target.helpers = joinLines (own ++ globalHelpers) := by
  unfold Loader.loadTarget at h
  split at h
  · simp at h
  · split at h
    · simp at h
    · rename_i rules hrules
      obtain ⟨own, t₁, t₂, hhelpers, hlast, rfl⟩ := h.ok_of_bind fun _ => rfl
      obtain ⟨rfl, rfl⟩ : t₂ = [] ∧ target = ⟨c, rules, joinLines (own ++ globalHelpers)⟩ := by
        simpa using hlast
      obtain ⟨u, hu, rfl⟩ := callBucket_runs_iff.1 hhelpers
      exact ⟨⟨rfl, hrules⟩, u, own, readTemplates_runs hu, List.append_nil _, rfl⟩

theorem loadTargets_runs {cs : List TargetConfig} {targets : List Target}
    (h : (l.loadTargets globalHelpers cs).Runs t (.ok targets)) :
    List.Forall₂ (fun c target => target.config = c ∧ Rule.ofConfigs c.rules = .ok target.rules)
        cs targets ∧
      HelpersLoaded l.files globalHelpers cs t targets := by
  induction cs generalizing t targets with
  | nil =>
    obtain ⟨rfl, rfl⟩ : t = [] ∧ targets = [] := by simpa [Loader.loadTargets] using h
    exact ⟨.nil, .nil⟩
  | cons c rest ih =>
    obtain ⟨target, t₁, t₂, hfirst, hnext, rfl⟩ := h.ok_of_bind fun _ => rfl
    obtain ⟨others, t₃, t₄, hothers, hlast, rfl⟩ := hnext.ok_of_bind fun _ => rfl
    obtain ⟨rfl, rfl⟩ : t₄ = [] ∧ targets = target :: others := by simpa using hlast
    rw [List.append_nil]
    obtain ⟨hconfig, u, own, hown, rfl, htarget⟩ := loadTarget_runs hfirst
    obtain ⟨hconfigs, hhelpers⟩ := ih hothers
    exact ⟨.cons hconfig hconfigs, .cons hown htarget hhelpers⟩

/-- What has been loaded are the targets and the templates of the configuration. -/
theorem loadSnapshot_runs {c : Config} {s : Snapshot} (h : (l.loadSnapshot c).Runs t (.ok s)) :
    List.Forall₂ (fun c target => target.config = c ∧ Rule.ofConfigs c.rules = .ok target.rules)
      c.targets s.targets ∧ s.templates = c.templates ∧
        ∃ texts, c.templates.helpers.mapM (readLocal l.files) = .ok texts ∧
          s.globalHelpers = joinLines texts ∧
          HelpersLoaded l.files texts c.targets t s.targets := by
  unfold Loader.loadSnapshot at h
  split at h
  · simp at h
  · rename_i texts htexts
    obtain ⟨targets, t₁, t₂, htargets, hlast, rfl⟩ := h.ok_of_bind fun _ => rfl
    obtain ⟨rfl, rfl⟩ : t₂ = [] ∧ s = _ := by simpa using hlast
    rw [List.append_nil]
    obtain ⟨hconfigs, hhelpers⟩ := loadTargets_runs htargets
    exact ⟨hconfigs, rfl, texts, htexts, rfl, hhelpers⟩

/-- A reload fails and changes no target, or ends with what loading the hooks makes of them. -/
theorem reload_runs {r r' : Registry H} {c : Config} {result : Answer Unit}
    (h : (r.reload l c).Runs t (result, r')) :
    (∃ f, result = .error f ∧ r' = r) ∨
      ∃ s, (l.loadSnapshot c).Runs t (.ok s) ∧
        ((∃ f hooks, l.loadHooks c.targets r.hooks = (.error f, hooks) ∧ result = .error f ∧
            r' = { r with hooks := hooks }) ∨
          ∃ hooks, l.loadHooks c.targets r.hooks = (.ok (), hooks) ∧ result = .ok () ∧
            r' = ⟨s, hooks⟩) := by
  rw [Registry.reload, Flow.runs_monad_bind_iff] at h
  obtain ⟨snapshot, t₁, t₂, hsnapshot, hlast, rfl⟩ := h
  cases snapshot with
  | error f =>
    obtain ⟨-, rfl, rfl⟩ : t₂ = [] ∧ result = .error f ∧ r' = r := by simpa using hlast
    exact .inl ⟨f, rfl, rfl⟩
  | ok s =>
    refine .inr ⟨s, ?_⟩
    cases hhooks : l.loadHooks c.targets r.hooks with
    | mk x hooks =>
      rw [hhooks] at hlast
      rcases x with f | ⟨⟨⟩⟩
      · obtain ⟨rfl, rfl, rfl⟩ : t₂ = [] ∧ result = .error f ∧ r' = { r with hooks := hooks } := by
          simpa using hlast
        exact ⟨by rwa [List.append_nil], .inl ⟨f, hooks, rfl, rfl, rfl⟩⟩
      · obtain ⟨rfl, rfl, rfl⟩ : t₂ = [] ∧ result = .ok () ∧ r' = ⟨s, hooks⟩ := by
          simpa using hlast
        exact ⟨by rwa [List.append_nil], .inr ⟨hooks, rfl, rfl, rfl⟩⟩

end Targets

/-! ## Reloads -/

section Reloads

variable {a : Reload} {r r' : Registry HookQueue} {t : Conversation BucketsInterface}
  {history : List PastReload}

/-- What happens to a queue between reloads leaves its hooks alone. -/
theorem HookQueue.Step.table {q q' : HookQueue} (h : q.Step q') : q'.table = q.table := by
  cases h with
  | look e =>
    simp only [HookQueue.look]
    split
    · rfl
    · split
      · rfl
      · rfl
  | offer i =>
    simp only [HookQueue.offer]
    split
    · simp only [HookQueue.enqueue]
      split
      · rfl
      · rfl
    · rfl
  | take =>
    simp only [HookQueue.take]
    split
    · split
      · rfl
      · rfl
    · rfl
  | finish i cs => rfl
  | close => rfl

/-- A reload that fails changes nothing. -/
theorem run_error {f : Failure} (h : (a.run r).Runs t (.error f, r')) : r' = r := by
  rcases reload_runs h with ⟨_, -, rfl⟩ | ⟨s, -, ⟨f, hooks, hload, -, rfl⟩ | ⟨_, -, hok, -⟩⟩
  · rfl
  · -- The targets were loaded and the hooks were not: the queue must be the one from before.
    have hsame : hooks = r.hooks := queue_load_error hload
    rw [hsame]
  · cases hok

/-- A reload that succeeds puts its configuration in force. -/
theorem run_ok (hvalid : a.config.validate = .ok ()) (hordered : TextMap.Ordered r.hooks.table)
    (h : (a.run r).Runs t (.ok (), r')) : TextMap.Ordered r'.hooks.table ∧ a.InForce t r' := by
  rcases reload_runs h with
    ⟨_, herror, -⟩ | ⟨s, hs, ⟨_, _, -, herror, -⟩ | ⟨hooks, hload, -, rfl⟩⟩
  · cases herror
  · cases herror
  · obtain ⟨htargets, htemplates, hhelpers⟩ := loadSnapshot_runs hs
    obtain ⟨hordered', hnames, hhooks⟩ :=
      load_ok (queue_load_ok hload) hordered ((Config.validate_eq_ok_iff.1 hvalid).distinct)
    refine ⟨hordered', htargets, htemplates, hhelpers, hnames, ?_⟩
    intro t ht
    obtain ⟨h, hget, hh⟩ := hhooks t ht
    exact ⟨h, hget, hooksInForce_of_ofTarget hh⟩

/-- What a reload makes of what was loaded last. -/
theorem lastLoaded_append (history : List PastReload) (p : PastReload) :
    lastLoaded (history ++ [p]) = if p.result = .ok () then some p else lastLoaded history := by
  rw [lastLoaded, List.foldl_append]
  rfl

/-- A configuration stays in force while hooks are left alone. -/
theorem InForceAfter.of_table {q : HookQueue} (h : InForceAfter history r)
    (htable : q.table = r.hooks.table) : InForceAfter history { r with hooks := q } := by
  unfold InForceAfter at h ⊢
  split at h
  · exact ⟨h.1, by rw [← h.2]; exact htable⟩
  · refine ⟨h.targets, h.templates, h.helpers, ?_, ?_⟩
    · rw [htable]
      exact h.names
    · intro t ht
      rw [htable]
      exact h.hooks t ht

/-- The names in the table of hooks are in order, whatever has been loaded. -/
theorem Reloaded.ordered (h : Reloaded history r) : TextMap.Ordered r.hooks.table := by
  induction h with
  | start workers capacity => exact TextMap.ordered_nil
  | @step history r q _ hstep ih =>
    -- Events between reloads never touch the table.
    show TextMap.Ordered q.table
    rwa [hstep.table]
  | @reload history r r' a result t _ hvalid hrun ih =>
    rcases result with f | ⟨⟨⟩⟩
    · rwa [run_error hrun]
    · exact (run_ok hvalid ih hrun).1

/-- The registry comes as a whole from the configuration that was loaded last. -/
theorem Reloaded.inForceAfter (h : Reloaded history r) : InForceAfter history r := by
  induction h with
  | start workers capacity => exact ⟨rfl, rfl⟩
  | step _ hstep ih => exact ih.of_table hstep.table
  | @reload history r r' a result t h hvalid hrun ih =>
    -- A failure keeps both the last configuration and the registry; a success replaces both.
    unfold InForceAfter
    rw [lastLoaded_append]
    rcases result with f | ⟨⟨⟩⟩
    · rw [if_neg (by simp), run_error hrun]
      exact ih
    · rw [if_pos rfl]
      exact (run_ok hvalid h.ordered hrun).2

/-- After any reloads, one more either fails and changes nothing, or puts its configuration in force
as a whole.  So the targets and the hooks in force come from the same configuration, the last one
that was loaded without a failure. -/
theorem reload_atomic (h : Reloaded history r) :
    (∀ (a : Reload) (t : Conversation BucketsInterface) (result : Answer Unit)
      (r' : Registry HookQueue), a.config.validate = .ok () → (a.run r).Runs t (result, r') →
        match result with
        | .error _ => r' = r
        | .ok () => a.InForce t r') ∧
    InForceAfter history r := by
  refine ⟨fun a t result r' hvalid hrun => ?_, h.inForceAfter⟩
  rcases result with f | ⟨⟨⟩⟩
  · exact run_error hrun
  · exact (run_ok hvalid h.ordered hrun).2

/-- One target whose removals are told to a hook is loaded, with a helper from its bucket in front
of one from a local file, and then the store of another one cannot be opened. -/
theorem reload_atomic_docs :
    let docs : TargetConfig :=
      { name := "docs", mount := ⟨none, ["/"]⟩,
        bucket := ⟨"docs", "", "us-east-1", none, none, false, 1000, ⟨[], [], [], []⟩⟩,
        rules := [], templates := ⟨[⟨"own.html", true⟩], .const none⟩,
        actions := ⟨none, none, some ⟨true, ⟨[⟨"http://h/", "post", [], [], 0, none, none⟩]⟩⟩⟩ }
    let hook : Hook := ⟨"http://h/", "POST", [("content-type", "application/json")], 0,
      .ofMillis 100, .ofSeconds 2⟩
    let templates : GlobalTemplates := ⟨["all.html"], .const none⟩
    let files : LocalFiles := .ofList [("all.html", Text.Utf8.encode "all")]
    let first : Reload := ⟨⟨.standard, templates, [docs]⟩, ⟨[], files⟩, fun _ => .ok ()⟩
    let body : ObjectStream := [.data (Text.Utf8.encode "own")]
    let own : Exchange BucketsInterface :=
      ⟨(docs, .get "own.html" .none), .ok (⟨body, .empty⟩, ⟨"docs", "us-east-1", "", "own.html"⟩)⟩
    let second : Reload :=
      ⟨⟨.standard, ⟨[], .const none⟩, [{ docs with name := "other" }]⟩, ⟨[], ⟨[]⟩⟩,
        fun _ => .error (.internal "closed")⟩
    let q : HookQueue := { HookQueue.start 1 8 with table := [("docs", ⟨[], [], [hook]⟩)] }
    InForceAfter [⟨first, [own], .ok ()⟩, ⟨second, [], .error (.internal "closed")⟩]
      ⟨⟨[⟨docs, [], "own\nall"⟩], templates, "all"⟩, q⟩ := by
  intro docs hook templates files first body own second q
  have hall : templates.helpers.mapM (readLocal files) = .ok ["all"] := by decide +kernel
  have hrun : (first.run ⟨.empty, .start 1 8⟩).Runs [own]
      (.ok (), ⟨⟨[⟨docs, [], "own\nall"⟩], templates, "all"⟩, q⟩) := by
    simp only [Reload.run, Registry.reload, Loader.loadSnapshot, first, hall]
    exact .call _ (.done _)
  have hfirst : Reloaded [⟨first, [own], .ok ()⟩]
      ⟨⟨[⟨docs, [], "own\nall"⟩], templates, "all"⟩, q⟩ := .reload (.start 1 8) rfl hrun
  have hsecond : Reloaded [⟨first, [own], .ok ()⟩, ⟨second, [], .error (.internal "closed")⟩]
      ⟨⟨[⟨docs, [], "own\nall"⟩], templates, "all"⟩, q⟩ := .reload hfirst rfl (.done _)
  exact (reload_atomic hsecond).2

end Reloads

end ObjectGateway
