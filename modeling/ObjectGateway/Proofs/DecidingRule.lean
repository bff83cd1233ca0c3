import ObjectGateway.Proofs.Gateway.Metadata
import ObjectGateway.Proofs.Gateway.Runs
import ObjectGateway.Proofs.Pattern.Leftmost
import ObjectGateway.Proofs.Rewrite
import ObjectGateway.Proofs.Text.Lines

/-!
# The rule that decides

The first rule that matches a key decides what becomes of it, whatever stands before and after it in
the list; a key without such a rule stays as it is.  `Decided` says what a rule makes of a key that
it matches: which of the forms the answer has depends on the pattern's groups and on the kind of the
rule, and only the template of a rule can fail.  The main statement is `rewrite_by_first`.
-/

namespace ObjectGateway

/-- The pattern of a rule matches somewhere in a key. -/
def Rule.Applies (r : Rule) (key : String) : Prop := r.pattern.Occurs key.toList

theorem Rule.occursIn_iff {r : Rule} {key : String} : r.occursIn key = true ↔ r.Applies key :=
  Pattern.Compiled.search_isSome_iff

namespace RewriteContext

/-- What a rule makes of a key that it matches. -/
structure Decided (c : RewriteContext) (r : Rule) (key : String) (answer : Answer String) : Prop where
  /-- Without groups of its own, the target is the answer. -/
  verbatim : ¬ r.pattern.HasGroups → answer = .ok r.target
  /-- The target is expanded by what a leftmost match has captured. -/
  expanded : r.pattern.HasGroups → r.kind = .expansion →
    ∃ last, r.pattern.Leftmost key.toList last ∧
      r.pattern.search key.toList = some (r.pattern.captures key.toList last) ∧
      answer = .ok (String.ofList (Pattern.Match.expand
        ⟨r.pattern.captures key.toList last, r.pattern.names⟩ r.target.toList))
  /-- The target is rendered behind the helpers, and the answer is the line of it. -/
  rendered : r.pattern.HasGroups → r.kind = .template → ∀ line, answer = .ok line ↔
    ∃ text, c.engine.render (c.helpers ++ "\n" ++ r.target) (c.values key) = .ok text ∧
      Text.LineOf text line
  /-- Only a template that is rendered can fail. -/
  failed : ∀ f, answer = .error f ↔ r.pattern.HasGroups ∧ r.kind = .template ∧
    c.engine.render (c.helpers ++ "\n" ++ r.target) (c.values key) = .error f

/-- A key is rewritten by the first rule of a list that matches it. -/
structure Rewritten (c : RewriteContext) (rules : List Rule) (key : String)
    (answer : Answer String) : Prop where
  unmatched : (∀ r ∈ rules, ¬ r.Applies key) → answer = .ok key
  first : ∀ before r after, rules = before ++ [r] ++ after → (∀ a ∈ before, ¬ a.Applies key) →
    r.Applies key → answer = c.rewrite [r] key ∧ c.Decided r key answer
  /-- No failure but one of a template is possible. -/
  failure : c.engine.FailsAsTemplate → FailsOnly (fun f => ∃ reason, f = .template reason) answer

variable {c : RewriteContext} {rules before after : List Rule} {r : Rule} {key : String}

theorem rewrite_of_unmatched (h : ∀ r ∈ rules, ¬ r.Applies key) : c.rewrite rules key = .ok key := by
  have hnone : rules.find? (·.occursIn key) = none :=
    List.find?_eq_none.2 fun r hr hoccurs => h r hr (Rule.occursIn_iff.1 hoccurs)
  rw [rewrite, hnone]

/-- What stands around the first rule that matches does not matter. -/
theorem rewrite_of_first (hbefore : ∀ a ∈ before, ¬ a.Applies key) (hr : r.Applies key) :
    c.rewrite (before ++ [r] ++ after) key = c.apply r key := by
  have hfirst : (before ++ [r] ++ after).find? (·.occursIn key) = some r := by
    rw [List.append_assoc, List.singleton_append]
    refine List.find?_eq_some_iff_append.2
      ⟨Rule.occursIn_iff.2 hr, before, after, rfl, fun a ha => ?_⟩
    rw [Bool.not_eq_true', Bool.eq_false_iff]
    exact fun hoccurs => hbefore a ha (Rule.occursIn_iff.1 hoccurs)
  rw [rewrite, hfirst]

theorem apply_verbatim (hgroups : ¬ r.pattern.HasGroups) : c.apply r key = .ok r.target := by
  rw [← Pattern.Compiled.one_lt_groupCount_iff, Nat.not_lt] at hgroups
  rw [apply, if_pos hgroups]

section Groups

variable (hgroups : r.pattern.HasGroups)
include hgroups

theorem apply_expansion (hkind : r.kind = .expansion) {groups : List (Option (List Char))}
    (hsearch : r.pattern.search key.toList = some groups) :
    c.apply r key =
      .ok (String.ofList (Pattern.Match.expand ⟨groups, r.pattern.names⟩ r.target.toList)) := by
  have hcount := Pattern.Compiled.one_lt_groupCount_iff.2 hgroups
  rw [apply, if_neg (Nat.not_le_of_lt hcount), hkind]
  simp only [hsearch]

theorem apply_template (hkind : r.kind = .template) :
    c.apply r key = (c.engine.render (c.helpers ++ "\n" ++ r.target) (c.values key)).map
      Text.singleLine := by
  have hcount := Pattern.Compiled.one_lt_groupCount_iff.2 hgroups
  rw [apply, if_neg (Nat.not_le_of_lt hcount), hkind]
  rfl

end Groups

theorem apply_rendered (hgroups : r.pattern.HasGroups) (hkind : r.kind = .template) (line : String) :
    c.apply r key = .ok line ↔
      ∃ text, c.engine.render (c.helpers ++ "\n" ++ r.target) (c.values key) = .ok text ∧
        Text.LineOf text line := by
  rw [apply_template hgroups hkind]
  cases c.engine.render (c.helpers ++ "\n" ++ r.target) (c.values key) with
  | error f => simp [Except.map]
  | ok text => simp [Except.map, Text.lineOf_iff]

/-- A rule fails exactly as its template does, if it has one that is rendered. -/
theorem apply_eq_error_iff (hr : r.Applies key) {f : Failure} :
    c.apply r key = .error f ↔ r.pattern.HasGroups ∧ r.kind = .template ∧
      c.engine.render (c.helpers ++ "\n" ++ r.target) (c.values key) = .error f := by
  by_cases hgroups : r.pattern.HasGroups
  · cases hkind : r.kind with
    | expansion =>
      obtain ⟨groups, hsearch⟩ := Option.isSome_iff_exists.1 (Rule.occursIn_iff.2 hr)
      simp [apply_expansion hgroups hkind hsearch]
    | template =>
      rw [apply_template hgroups hkind]
      cases c.engine.render (c.helpers ++ "\n" ++ r.target) (c.values key) with
      | error e => simp [Except.map, hgroups]
      | ok text => simp [Except.map]
  · simp [apply_verbatim hgroups, hgroups]

/-- What a rule makes of a key that it matches. -/
theorem apply_decided (hr : r.Applies key) : c.Decided r key (c.apply r key) where
  verbatim := apply_verbatim
  expanded hgroups hkind := by
    obtain ⟨groups, hsearch⟩ := Option.isSome_iff_exists.1 (Rule.occursIn_iff.2 hr)
    obtain ⟨last, hleftmost, rfl⟩ := Pattern.Compiled.search_leftmost hsearch
    exact ⟨last, hleftmost, hsearch, apply_expansion hgroups hkind hsearch⟩
  rendered := apply_rendered
  failed _ := apply_eq_error_iff hr

/-- The first rule that matches a key decides what becomes of it. -/
theorem rewrite_by_first (c : RewriteContext) (rules : List Rule) (key : String) :
    c.Rewritten rules key (c.rewrite rules key) where
  unmatched := rewrite_of_unmatched
  first before r after hrules hbefore hr := by
    have halone : c.rewrite ([] ++ [r] ++ []) key = c.apply r key :=
      rewrite_of_first (List.forall_mem_nil _) hr
    rw [hrules, rewrite_of_first hbefore hr]
    exact ⟨halone.symm, apply_decided hr⟩
  failure hengine := rewrite_failsOnly hengine

/-- A rule with a group that moves what lies below `/a/`, between two rules whose templates fail:
one that does not match and one that comes too late. -/
theorem rewrite_by_first_docs :
    let pattern source := (Pattern.read? source).getD ⟨.empty, []⟩
    let other : Rule := ⟨pattern "^/never/(.*)$", "\x7b\x7b", .template⟩
    let moved : Rule := ⟨pattern "^/a/(.*)$", "/first/$1", .expansion⟩
    let late : Rule := ⟨pattern "(.*)", "\x7b\x7b", .template⟩
    let unclosed : Answer String := .error (.template "unclosed")
    let c : RewriteContext := ⟨default, none, (Gateway.docs [] ⟨none, none, none⟩).target.config, "",
      ⟨fun _ _ => unclosed, fun _ _ => unclosed⟩⟩
    c.rewrite [other, moved, late] "/a/b" = .ok "/first/b" ∧
      c.rewrite [late] "/a/b" = .error (.template "unclosed") := by
  intro pattern other moved late unclosed c
  have hother : ¬ other.Applies "/a/b" := fun h => absurd (Rule.occursIn_iff.2 h) (by decide +kernel)
  have hmoved : moved.Applies "/a/b" := Rule.occursIn_iff.1 (by decide +kernel)
  have hlate : late.Applies "/a/b" := Rule.occursIn_iff.1 (by decide +kernel)
  have hfirst := (rewrite_by_first c [other, moved, late] "/a/b").first [other] moved [late] rfl
    (by simpa using hother) hmoved
  have hlast := (rewrite_by_first c [late] "/a/b").first [] late [] rfl (by simp) hlate
  constructor
  · obtain ⟨last, -, hsearch, hexpanded⟩ := hfirst.2.expanded
      (Pattern.Compiled.one_lt_groupCount_iff.1 (by decide +kernel)) rfl
    have hcaptured : moved.pattern.search "/a/b".toList = some [some "/a/b".toList, some ['b']] := by
      decide +kernel
    rw [hexpanded, Option.some.inj (hsearch.symm.trans hcaptured)]
    exact congrArg Except.ok (by decide +kernel)
  · exact (hlast.2.failed _).2
      ⟨Pattern.Compiled.one_lt_groupCount_iff.1 (by decide +kernel), rfl, rfl⟩

end RewriteContext

end ObjectGateway
