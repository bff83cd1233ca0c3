import ObjectGateway.Proofs.Failure
import ObjectGateway.Rewrite

/-!
# How rewriting depends on its surroundings

Only templates look at a request, and only they can fail.  So the failures of rewriting are those of
the engine, and rules without templates rewrite a key in the same way for every request.
-/

namespace ObjectGateway.RewriteContext

variable {rules : List Rule} {key : String}

theorem apply_failsOnly {P : Failure → Prop} {c : RewriteContext}
    (hengine : ∀ source context, FailsOnly P (c.engine.render source context)) (r : Rule) :
    FailsOnly P (c.apply r key) := by
  unfold apply
  split
  · exact failsOnly_ok _
  · split
    · split
      · exact failsOnly_ok _
      · exact failsOnly_ok _
    · exact (hengine _ _).map _

/-- Rewriting fails only as the engine does. -/
theorem rewrite_failsOnly {P : Failure → Prop} {c : RewriteContext}
    (hengine : ∀ source context, FailsOnly P (c.engine.render source context)) :
    FailsOnly P (c.rewrite rules key) := by
  unfold rewrite
  split
  · exact apply_failsOnly hengine _
  · exact failsOnly_ok _

/-- Rewriting looks at a request, a user and a target only as templates see them. -/
theorem rewrite_congr {c d : RewriteContext} (hhelpers : c.helpers = d.helpers)
    (hengine : c.engine = d.engine) (hvalues : ∀ key, c.values key = d.values key) :
    c.rewrite rules key = d.rewrite rules key := by
  unfold rewrite apply
  rw [hhelpers, hengine, hvalues]

/-- A rule without a template does not look at the request. -/
theorem apply_eq_of_expansion {r : Rule} (hkind : r.kind = .expansion) (c d : RewriteContext) :
    c.apply r key = d.apply r key := by
  unfold apply
  rw [hkind]

/-- Rules without templates rewrite a key in the same way for every request. -/
theorem rewrite_eq_of_expansion (hrules : ∀ r ∈ rules, r.kind = .expansion)
    (c d : RewriteContext) : c.rewrite rules key = d.rewrite rules key := by
  unfold rewrite
  cases hfound : rules.find? (·.occursIn key) with
  | none => rfl
  | some r => exact apply_eq_of_expansion (hrules r (List.mem_of_find?_eq_some hfound)) c d

end ObjectGateway.RewriteContext
