import ObjectGateway.Proofs.Template.Members
import ObjectGateway.Template.Engine

/-!
# What statements render

A step of a rendering either finds a value and changes nothing, `Finds`, or renders a text and
changes nothing else, `Renders`, whatever has been rendered before.  The steps are put together from
smaller ones; a loop renders what its body renders for each of its items in turn, `renders_forLoop`.
-/

namespace ObjectGateway.Template.Exec

variable {α β : Type} {s : Setting} {c : Caller} {m : Machine} {a : α} {v w : Value}
  {t u name : String} {e : Expr} {x y : Exec Unit}

/-- A step that finds a value and changes nothing. -/
def Finds (x : Exec α) (m : Machine) (a : α) : Prop :=
  ∀ output, x { m with output := output } = .ok (a, { m with output := output })

/-- A step that renders a text and changes nothing else. -/
def Renders (x : Exec Unit) (m : Machine) (t : String) : Prop :=
  ∀ output, ∃ pieces, String.join pieces.reverse = t ∧
    x { m with output := output } = .ok ((), { m with output := pieces ++ output })

theorem bind_eq_of_ok {x : Exec α} {f : α → Exec β} {m m' : Machine} (h : x m = .ok (a, m')) :
    (x >>= f) m = f a m' := by
  show (x m >>= fun p => f p.1 p.2) = _
  rw [h]
  rfl

/-! ## Values

What an expression or a statement does is opened by its definition: the equations of so large a
recursion take long to make. -/

theorem finds_pure (m : Machine) (a : α) : Finds (pure a) m a := fun _ => rfl

theorem finds_lift {r : Except Fault α} (h : r = .ok a) : Finds (lift r) m a := by
  subst h
  exact fun _ => rfl

theorem Finds.bind {x : Exec α} {f : α → Exec β} {b : β} (hx : Finds x m a)
    (hf : Finds (f a) m b) : Finds (x >>= f) m b := by
  intro output
  rw [bind_eq_of_ok (hx output), hf output]

theorem finds_literal (l : Literal) : Finds (eval s c v (.lit l)) m (literal l) :=
  finds_pure m _

/-- A name of the innermost frame. -/
theorem finds_var_of_names {f : Frame} (h : f.names.lookup name = some w) :
    Finds (eval s c v (.var name)) { m with frames := f :: m.frames } w := by
  have hlookup : Finds (lookup s name) { m with frames := f :: m.frames } (some w) := by
    intro output
    rw [lookup, bind_eq_of_ok rfl]
    simp only [List.findSome?_cons, frameLookup, h]
    rfl
  exact hlookup.bind (finds_pure _ _)

/-- A name that no frame knows, but the context does. -/
theorem finds_var_of_context (hframes : m.frames.findSome? (frameLookup m.records name) = none)
    (h : s.context.attr? name = some w) : Finds (eval s c v (.var name)) m w := by
  have hlookup : Finds (lookup s name) m (some w) := by
    intro output
    rw [lookup, bind_eq_of_ok rfl]
    simp only [hframes, h]
    rfl
  exact hlookup.bind (finds_pure m _)

/-- A member of an object as an attribute. -/
theorem finds_member {object j : Json} (he : Finds (eval s c v e) m (.ofJson object))
    (h : object.Has name j) : Finds (eval s c v (.attr e name)) m (.ofJson j) := by
  have hmember : Finds (member (.ofJson object) name) m (some (.ofJson j)) := by
    rw [← Value.attr?_ofJson h]
    obtain ⟨members, rfl, -⟩ := h
    exact finds_pure m _
  exact he.bind (hmember.bind (finds_pure m _))

theorem finds_eq {l r : Expr} {a b : Value} (hl : Finds (eval s c v l) m a)
    (hr : Finds (eval s c v r) m b) :
    Finds (eval s c v (.binary .eq l r)) m (.bool (Value.eqv a b)) :=
  hl.bind (hr.bind (finds_lift rfl))

/-- The first of two values, unless it counts as false. -/
theorem finds_or {l r : Expr} {a b : Value} (hl : Finds (eval s c v l) m a)
    (hr : Finds (eval s c v r) m b) :
    Finds (eval s c v (.binary .or l r)) m (if a.isTrue then a else b) := by
  refine hl.bind ?_
  split
  · exact finds_pure m a
  · exact hr

/-- A filter without arguments. -/
theorem finds_filter {filter : String} {a : Value} (he : Finds (eval s c v e) m a)
    (h : applyFilter filter a [] = .ok w) : Finds (eval s c v (.filter filter e [])) m w :=
  he.bind ((finds_pure m _).bind (finds_lift h))

/-! ## Texts -/

theorem renders_pure (m : Machine) : Renders (pure ()) m "" := fun _ => ⟨[], rfl, rfl⟩

theorem renders_write (m : Machine) (t : String) : Renders (write t) m t :=
  fun _ => ⟨[t], by simp [String.join], rfl⟩

theorem Finds.renders {x : Exec α} {f : α → Exec Unit} (hx : Finds x m a)
    (hf : Renders (f a) m t) : Renders (x >>= f) m t := by
  intro output
  rw [bind_eq_of_ok (hx output)]
  exact hf output

theorem Renders.seq {f : Unit → Exec Unit} (hx : Renders x m t) (hf : Renders (f ()) m u) :
    Renders (x >>= f) m (t ++ u) := by
  intro output
  obtain ⟨first, hfirst, hx⟩ := hx output
  obtain ⟨second, hsecond, hy⟩ := hf (first ++ output)
  refine ⟨second ++ first, ?_, ?_⟩
  · rw [List.reverse_append, String.join_append, hfirst, hsecond]
  · rw [bind_eq_of_ok hx, hy, List.append_assoc]

/-- A value is printed as markup where values are escaped. -/
theorem renders_emit (hescaping : m.escaping = true) (v : Value) : Renders (emit v) m v.markup := by
  intro output
  rw [emit, bind_eq_of_ok rfl]
  simpa only [if_pos hescaping] using renders_write m v.markup output

theorem renders_text (t : String) : Renders (exec s c (.text t)) m t :=
  renders_write m t

theorem renders_print (hescaping : m.escaping = true) (he : Finds (eval s c .undefined e) m v) :
    Renders (exec s c (.emit e)) m v.markup :=
  he.renders (renders_emit hescaping v)

theorem renders_ifElse {yes no : List Stmt} (he : Finds (eval s c .undefined e) m v)
    (h : Renders (execAll s c (if v.isTrue then yes else no)) m t) :
    Renders (exec s c (.ifElse e yes no)) m t := by
  refine he.renders ?_
  split at h
  · next htrue => rwa [if_pos htrue]
  · next hfalse => rwa [if_neg hfalse]

theorem renders_nil : Renders (execAll s c []) m "" := renders_pure m

theorem renders_cons {st : Stmt} {rest : List Stmt} (h : Renders (exec s c st) m t)
    (hrest : Renders (execAll s c rest) m u) : Renders (execAll s c (st :: rest)) m (t ++ u) :=
  h.seq hrest

/-! ## Loops -/

/-- A step in a new frame that renders a text and changes nothing else outside of this frame. -/
def RendersIn (f : Frame) (x : Exec Unit) (m : Machine) (t : String) : Prop :=
  ∀ output, ∃ pieces g, String.join pieces.reverse = t ∧
    x { m with frames := f :: m.frames, output := output } =
      .ok ((), { m with frames := g :: m.frames, output := pieces ++ output })

theorem renders_within {f : Frame} (h : RendersIn f x m t) : Renders (within f x) m t := by
  intro output
  obtain ⟨pieces, g, hpieces, hx⟩ := h output
  refine ⟨pieces, hpieces, ?_⟩
  rw [within, bind_eq_of_ok rfl, bind_eq_of_ok hx]
  rfl

/-- A frame with a value for a name. -/
def Frame.put (f : Frame) (name : String) (v : Value) : Frame :=
  { f with names := (name, v) :: f.names.filter (·.1 != name) }

theorem lookup_put (f : Frame) (name : String) (v : Value) :
    (Frame.put f name v).names.lookup name = some v := by
  simp [Frame.put]

theorem assign_name_eq {f : Frame} (hrecord : f.record = none) (output : List String) :
    assign s c (.name name) v { m with frames := f :: m.frames, output := output } =
      .ok ((), { m with frames := Frame.put f name v :: m.frames, output := output }) := by
  obtain ⟨names, loop, record, base⟩ := f
  obtain rfl : record = none := hrecord
  rfl

/-- Visiting the values of entries renders what the body renders for each of them. -/
theorem rendersIn_visit {body : Exec Unit} {entries : List α} {value : α → Value}
    {text : α → String} {f : Frame} (hrecord : f.record = none)
    (hbody : ∀ a ∈ entries, ∀ f : Frame, f.names.lookup name = some (value a) →
      Renders body { m with frames := f :: m.frames } (text a)) (i : Nat) :
    RendersIn f (visit (assign s c (.name name)) body i (entries.map value)) m
      (String.join (entries.map text)) := by
  induction entries generalizing i f with
  | nil => exact fun output => ⟨[], f, rfl, rfl⟩
  | cons a rest ih =>
    intro output
    let moved : Frame := { f with loop := f.loop.map fun l => { l with position := i } }
    let bound := Frame.put moved name (value a)
    have hfirst := hbody a (List.mem_cons_self ..) bound (lookup_put moved name (value a))
    have hrest := ih (f := bound) hrecord (fun b hb => hbody b (List.mem_cons_of_mem _ hb)) (i + 1)
    obtain ⟨first, hfirst, hfirstRun⟩ := hfirst output
    obtain ⟨second, g, hsecond, hsecondRun⟩ := hrest (first ++ output)
    refine ⟨second ++ first, g, ?_, ?_⟩
    · rw [List.reverse_append, String.join_append, hfirst, hsecond, List.map_cons, String.join_cons]
    · rw [List.map_cons, visit, bind_eq_of_ok rfl,
        bind_eq_of_ok (assign_name_eq (f := moved) hrecord output), bind_eq_of_ok hfirstRun,
        hsecondRun, List.append_assoc]

theorem exists_finds_loopDepth (m : Machine) : ∃ depth, Finds loopDepth m depth := by
  cases hloop : m.frames.findSome? (·.loop) with
  | none =>
    refine ⟨0, fun output => ?_⟩
    rw [loopDepth, bind_eq_of_ok rfl]
    simp only [hloop]
    rfl
  | some l =>
    refine ⟨if l.recursion.isSome then l.depth + 1 else 0, fun output => ?_⟩
    rw [loopDepth, bind_eq_of_ok rfl]
    simp only [hloop]
    rfl

/-- A loop over the values of entries renders what its body renders for each entry, where the name
of the loop has the value of this entry. -/
theorem renders_forLoop {source : Expr} {body : List Stmt} {entries : List α} {value : α → Value}
    {text : α → String} (hsource : Finds (eval s c .undefined source) m (.seq (entries.map value)))
    (hbody : ∀ a ∈ entries, ∀ f : Frame, f.names.lookup name = some (value a) →
      Renders (execAll s c body) { m with frames := f :: m.frames } (text a)) :
    Renders (exec s c (.forLoop (.name name) source (.lit (.bool true)) false body [])) m
      (String.join (entries.map text)) := by
  let items := entries.map value
  obtain ⟨depth, hdepth⟩ := exists_finds_loopDepth m
  let f : Frame := { Frame.empty with loop := some ⟨items, 0, depth, none, none⟩ }
  have hvisit : RendersIn f (visit (assign s c (.name name)) (execAll s c body) 0 items) m
      (String.join (entries.map text)) := rendersIn_visit rfl hbody 0
  have hotherwise : Renders (if items.isEmpty then execAll s c [] else pure ()) m "" := by
    split
    · exact renders_nil
    · exact renders_pure m
  refine hsource.renders (hdepth.renders ((finds_lift rfl).renders ?_))
  refine (finds_pure m items).renders ?_
  rw [← String.append_empty (s := String.join (entries.map text))]
  exact (renders_within hvisit).seq hotherwise

/-! ## Templates -/

/-- The machine that a rendering starts on. -/
def start (s : Setting) : Machine := ⟨[.empty], [], [], [], s.escaping⟩

/-- A member of the context. -/
theorem finds_var_at_start {context j : Json} (hs : s.context = .ofJson context)
    (h : context.Has name j) : Finds (eval s c v (.var name)) (start s) (.ofJson j) := by
  refine finds_var_of_context rfl ?_
  rw [hs]
  exact Value.attr?_ofJson h

/-- A template renders what its statements render. -/
theorem render_eq_of_renders {stmts : List Stmt}
    (h : ∀ c, Renders (execAll s c stmts) (start s) t) : render s stmts = .ok t := by
  obtain ⟨pieces, hpieces, hrun⟩ := h (callerUpTo s callDepth) []
  have hrun : execAll s (callerUpTo s callDepth) stmts (start s) =
      .ok ((), { start s with output := pieces }) := by
    rwa [List.append_nil] at hrun
  rw [render, ← start, hrun]
  exact congrArg Except.ok hpieces

/-- What the tokens of a template mean, it means. -/
theorem read_eq_of_tokens {source : String} {tokens : List Token} {stmts : List Stmt}
    (hlex : Token.read source = .ok tokens) (hparse : Reader.template tokens = some stmts) :
    read source = .ok stmts := by
  rw [read, hlex]
  simp only [hparse]

end ObjectGateway.Template.Exec
