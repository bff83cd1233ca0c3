import Mathlib.Algebra.Ring.Int.Defs
import Mathlib.Data.List.Forall2
import Mathlib.Data.Option.Basic
import ObjectGateway.Proofs.Rewrite

/-!
# Secrets

The form of a configuration that templates see shows everything but the secrets: two targets have
the same form exactly if they differ in nothing but the key pair of the bucket and the secret headers
of their webhooks.  Since templates see a target in this form alone, no rule and no helper, however it
is written, tells two such targets apart: `secrets_unseen`.
-/

namespace ObjectGateway

variable {α : Type}

/-! ## Values that differ in secrets -/

/-- Two webhooks that differ in their secret headers at most. -/
def Webhook.Alike (w v : Webhook) : Prop :=
  v = { w with secretHeaders := v.secretHeaders }

/-- Two buckets that differ in their key pairs at most. -/
def BucketConfig.Alike (b c : BucketConfig) : Prop :=
  c = { b with credentials := c.credentials }

/-- Two ways to read objects that differ in secrets of webhooks at most. -/
def GetConfig.Alike (g h : GetConfig) : Prop :=
  h = { g with webhooks := h.webhooks } ∧ List.Forall₂ Webhook.Alike g.webhooks h.webhooks

/-- Two ways to write objects that differ in secrets of webhooks at most. -/
def PutConfig.Alike (p q : PutConfig) : Prop :=
  q = { p with webhooks := q.webhooks } ∧ List.Forall₂ Webhook.Alike p.webhooks q.webhooks

/-- Two ways to remove objects that differ in secrets of webhooks at most. -/
def DeleteConfig.Alike (d e : DeleteConfig) : Prop :=
  List.Forall₂ Webhook.Alike d.webhooks e.webhooks

/-- Two actions that are both served or both not, and whose settings are related. -/
def Action.Alike (R : α → α → Prop) (a b : Action α) : Prop :=
  a.enabled = b.enabled ∧ R a.config b.config

/-- Two lists of actions that differ in secrets of webhooks at most. -/
structure Actions.Alike (a b : Actions) : Prop where
  get : Option.Rel (Action.Alike GetConfig.Alike) a.get b.get
  put : Option.Rel (Action.Alike (Option.Rel PutConfig.Alike)) a.put b.put
  delete : Option.Rel (Action.Alike DeleteConfig.Alike) a.delete b.delete

/-- Two targets that differ in secrets at most: in the key pair of the bucket, and in secret headers
of the webhooks of any action. -/
structure TargetConfig.Alike (c d : TargetConfig) : Prop where
  bucket : c.bucket.Alike d.bucket
  actions : c.actions.Alike d.actions
  rest : d = { c with bucket := d.bucket, actions := d.actions }

/-! ## What a form shows -/

/-- A form shows of a value exactly what the relation keeps apart. -/
def Json.Shows (f : α → Json) (R : α → α → Prop) : Prop :=
  ∀ a b, f a = f b ↔ R a b

namespace Json

variable {f : α → Json} {R : α → α → Prop}

theorem Shows.list (h : Shows f R) :
    Shows (fun as => .arr (as.map f)) (List.Forall₂ R) := by
  intro as bs
  rw [arr.injEq, ← List.forall₂_eq_eq_eq, List.forall₂_map_left_iff, List.forall₂_map_right_iff]
  exact ⟨List.Forall₂.imp fun a b => (h a b).1, List.Forall₂.imp fun a b => (h a b).2⟩

theorem Shows.option (h : Shows f R) (hnull : ∀ a, f a ≠ .null) :
    Shows (ofOption f) (Option.Rel R) := by
  intro a b
  cases a with
  | none =>
    cases b with
    | none => exact iff_of_true rfl .none
    | some b => exact iff_of_false (fun h => hnull b h.symm) nofun
  | some a =>
    cases b with
    | none => exact iff_of_false (hnull a) nofun
    | some b => exact (h a b).trans Option.rel_some_some.symm

theorem Shows.optionEq (h : Shows f Eq) (hnull : ∀ a, f a ≠ .null) : Shows (ofOption f) Eq := by
  intro a b
  rw [h.option hnull a b]
  cases a <;> cases b <;> simp

theorem shows_str : Shows .str Eq := fun s t => by rw [str.injEq]

theorem shows_ofText? : Shows ofText? Eq := by
  rintro (_ | s) (_ | t) <;> simp [ofText?]

theorem shows_ofTexts : Shows ofTexts Eq := by
  intro ss ts
  rw [← List.forall₂_eq_eq_eq]
  exact shows_str.list ss ts

theorem shows_ofTextMap : Shows ofTextMap Eq := by
  intro m n
  rw [ofTextMap, ofTextMap, obj.injEq]
  refine (List.map_injective_iff.2 ?_).eq_iff
  rintro ⟨k, v⟩ ⟨l, w⟩ h
  simpa using h

end Json

/-! ## The forms of a configuration -/

open Json (Shows shows_str shows_ofText? shows_ofTexts shows_ofTextMap)

theorem Webhook.shows_toJson : Shows toJson Alike := by
  intro w v
  cases w
  cases v
  simp [toJson, Alike, shows_ofText? _ _, shows_ofTextMap _ _, eq_comm]

theorem Webhook.shows_listToJson : Shows listToJson (List.Forall₂ Alike) :=
  shows_toJson.list

theorem Mount.shows_toJson : Shows toJson Eq := by
  intro m n
  cases m
  cases n
  simp [toJson, shows_ofText? _ _, shows_ofTexts _ _]

theorem OperationHeaders.shows_toJson : Shows toJson Eq := by
  intro h k
  cases h
  cases k
  simp [toJson, shows_ofTextMap _ _]

theorem BucketConfig.shows_toJson : Shows toJson Alike := by
  intro b c
  cases b
  cases c
  simp [toJson, Alike, shows_ofText? _ _, OperationHeaders.shows_toJson _ _, eq_comm]

theorem RuleConfig.shows_toJson : Shows toJson Eq := by
  rintro ⟨source, target, _ | _⟩ ⟨source', target', _ | _⟩ <;> simp [toJson, RuleKind.name]

theorem TemplateItem.shows_toJson : Shows toJson Eq := by
  rintro ⟨path, inBucket⟩ ⟨path', inBucket'⟩
  simp [toJson]

theorem TargetTemplates.shows_toJson : Shows toJson Eq := by
  have hitem : Shows (Json.ofOption TemplateItem.toJson) Eq :=
    TemplateItem.shows_toJson.optionEq nofun
  rintro ⟨helpers, pages⟩ ⟨helpers', pages'⟩
  cases pages
  cases pages'
  have hhelpers := TemplateItem.shows_toJson.list helpers helpers'
  rw [List.forall₂_eq_eq_eq] at hhelpers
  simp [toJson, Pages.toMembers, hitem _ _, ← hhelpers]

theorem GetConfig.shows_toJson : Shows toJson Alike := by
  intro g h
  cases g
  cases h
  simp [toJson, Alike, shows_ofText? _ _, Webhook.shows_listToJson _ _, eq_comm, and_assoc]

theorem SystemMetadata.shows_toJson : Shows toJson Eq := by
  intro m n
  cases m
  cases n
  simp [toJson, shows_ofText? _ _]

theorem PutConfig.shows_toJson : Shows toJson Alike := by
  have hsystem : Shows (Json.ofOption SystemMetadata.toJson) Eq :=
    SystemMetadata.shows_toJson.optionEq nofun
  intro p q
  cases p
  cases q
  simp [toJson, Alike, shows_ofText? _ _, shows_ofTextMap _ _, hsystem _ _,
    Webhook.shows_listToJson _ _, eq_comm, and_assoc]

theorem DeleteConfig.shows_toJson : Shows toJson Alike := by
  intro d e
  simp [toJson, Alike, Webhook.shows_listToJson _ _]

theorem Action.shows_toJson {f : α → Json} {R : α → α → Prop} (h : Shows f R) :
    Shows (toJson f) (Alike R) := by
  intro a b
  simp [toJson, Alike, h _ _]

theorem Actions.shows_toJson : Shows toJson Alike := by
  have hget := (Action.shows_toJson GetConfig.shows_toJson).option fun _ => nofun
  have hconfig := PutConfig.shows_toJson.option fun _ => nofun
  have hput := (Action.shows_toJson hconfig).option fun _ => nofun
  have hdelete := (Action.shows_toJson DeleteConfig.shows_toJson).option fun _ => nofun
  intro a b
  simp only [toJson, Json.obj.injEq, List.cons.injEq, Prod.mk.injEq, true_and, and_true,
    hget _ _, hput _ _, hdelete _ _]
  exact ⟨fun ⟨get, put, delete⟩ => ⟨get, put, delete⟩, fun h => ⟨h.get, h.put, h.delete⟩⟩

/-- The form of a target shows everything but the secrets. -/
theorem TargetConfig.shows_toJson : Shows toJson Alike := by
  intro c d
  have hrules := RuleConfig.shows_toJson.list c.rules d.rules
  rw [List.forall₂_eq_eq_eq] at hrules
  simp only [toJson, Json.obj.injEq, List.cons.injEq, Prod.mk.injEq, true_and, and_true,
    Json.str.injEq, Mount.shows_toJson _ _, BucketConfig.shows_toJson _ _, hrules,
    TargetTemplates.shows_toJson _ _, Actions.shows_toJson _ _]
  constructor
  · rintro ⟨hname, hmount, hbucket, hrules, htemplates, hactions⟩
    refine ⟨hbucket, hactions, ?_⟩
    rw [hname, hmount, hrules, htemplates]
  · rintro ⟨hbucket, hactions, hrest⟩
    rw [hrest]
    exact ⟨rfl, rfl, hbucket, rfl, rfl, hactions⟩

/-- Templates see of a target everything but its secrets: the forms of two targets are the same
exactly if the targets differ in secrets at most.  No list of rules then rewrites any key differently,
for whichever helpers, engine, request and user. -/
theorem secrets_unseen (c d : TargetConfig) :
    (c.toJson = d.toJson ↔ c.Alike d) ∧
    (c.Alike d → ∀ (rules : List Rule) (helpers : String) (engine : TemplateEngine)
      (request : RequestInfo) (user : Option User) (key : String),
      RewriteContext.rewrite ⟨request, user, c, helpers, engine⟩ rules key =
        RewriteContext.rewrite ⟨request, user, d, helpers, engine⟩ rules key) := by
  refine ⟨TargetConfig.shows_toJson c d, fun h rules helpers engine request user key => ?_⟩
  have hsame : c.toJson = d.toJson := (TargetConfig.shows_toJson c d).2 h
  have hvalues (key : String) : RewriteContext.values ⟨request, user, c, helpers, engine⟩ key =
      RewriteContext.values ⟨request, user, d, helpers, engine⟩ key := by
    simp only [RewriteContext.values, hsame]
  exact RewriteContext.rewrite_congr rfl rfl hvalues

/-- A rule that prints all of the target, with two key pairs and two values of a secret header. -/
theorem secrets_unseen_docs :
    let secret (value : String) : Secret := ⟨none, none, some value⟩
    let hook (value : String) : Webhook :=
      ⟨"http://hook.test", "POST", [], [("authorization", secret value)], 0, none, none⟩
    let docs (value : String) : TargetConfig :=
      { name := "docs", mount := ⟨none, ["/"]⟩,
        bucket := ⟨"docs", "", "us-east-1", none, some ⟨secret value, secret value⟩, false, 1000,
          ⟨[], [], [], []⟩⟩,
        rules := [⟨"(.*)", "\x7b\x7b target \x7d\x7d", .template⟩], templates := ⟨[], .const none⟩,
        actions := ⟨some ⟨true, { GetConfig.standard with webhooks := [hook value] }⟩, none, none⟩ }
    (docs "a").Alike (docs "b") ∧ docs "a" ≠ docs "b" ∧
      ∀ rules, Rule.ofConfigs (docs "a").rules = .ok rules →
        RewriteContext.rewrite ⟨default, none, docs "a", "", .standard⟩ rules "key" =
          RewriteContext.rewrite ⟨default, none, docs "b", "", .standard⟩ rules "key" := by
  intro secret hook docs
  have halike : (docs "a").Alike (docs "b") :=
    ⟨rfl, ⟨.some ⟨rfl, rfl, .cons rfl .nil⟩, .none, .none⟩, rfl⟩
  exact ⟨halike, by decide, fun rules _ => (secrets_unseen _ _).2 halike rules _ _ _ _ _⟩

end ObjectGateway
