import Mathlib.Data.Finset.Card
import ObjectGateway.Proofs.Pattern.Fragments

/-!
# Threads of programs

A search walks a text with many threads at once and visits no instruction twice at one offset.  It
finds what the paths of the program find: threads stand only where paths lead (`follow_sound`,
`takeChar_sound`, `walk_sound`), and what has been visited is closed under the instructions that
take no character (`Closed`), so that a path to an instruction that accepts is never lost
(`walk_complete`).  `matchAt_sound` and `matchAt_complete` say so of the search at one offset.
-/

namespace ObjectGateway.Pattern

variable {prog : Program} {text : List Char}

/-- A program comes from one configuration to another. -/
def Reaches (prog : Program) (text : List Char) (c d : Config) : Prop := ∃ n, Path prog text n c d

namespace Reaches

variable {c d e : Config}

theorem refl (c : Config) : Reaches prog text c c := ⟨0, .refl c⟩

theorem of_step (h : Reaches prog text d e) (hstep : Step prog text c d) : Reaches prog text c e := by
  obtain ⟨n, hpath⟩ := h
  exact ⟨n + 1, .step hstep hpath⟩

theorem trans (h : Reaches prog text c d) (h' : Reaches prog text d e) : Reaches prog text c e := by
  obtain ⟨m, hpath⟩ := h
  obtain ⟨n, hpath'⟩ := h'
  exact ⟨n + m, hpath.trans hpath'⟩

end Reaches

/-! ## Following instructions that take no character -/

/-- Whether an instruction counts as visited. -/
def Gathering.seen (g : Gathering) (pc : Nat) : Bool :=
  (g.visited[pc]?).getD true

/-- An instruction becomes visited. -/
def Gathering.visit (g : Gathering) (pc : Nat) : Gathering :=
  { g with visited := g.visited.setIfInBounds pc true }

/-- How many instructions are still to be visited. -/
def Gathering.unseen (g : Gathering) : Nat :=
  ((Finset.range g.visited.size).filter fun pc => g.seen pc = false).card

/-- Something has been gathered in addition. -/
structure Gathering.Grows (g g' : Gathering) : Prop where
  size : g'.visited.size = g.visited.size
  seen : ∀ {pc : Nat}, g.seen pc = true → g'.seen pc = true
  threads : ∀ {t : Thread}, t ∈ g.threads → t ∈ g'.threads

namespace Gathering

variable {g g' g'' : Gathering} {pc k : Nat}

theorem Grows.refl (g : Gathering) : g.Grows g := ⟨rfl, id, id⟩

theorem Grows.trans (h : g.Grows g') (h' : g'.Grows g'') : g.Grows g'' where
  size := h'.size.trans h.size
  seen hseen := h'.seen (h.seen hseen)
  threads ht := h'.threads (h.threads ht)

theorem Grows.unseen_le (h : g.Grows g') : g'.unseen ≤ g.unseen := by
  refine Finset.card_le_card fun pc hpc => ?_
  rw [Finset.mem_filter, h.size] at hpc
  refine Finset.mem_filter.2 ⟨hpc.1, ?_⟩
  by_contra hseen
  rw [h.seen (Bool.eq_true_of_not_eq_false hseen)] at hpc
  exact Bool.noConfusion hpc.2

theorem lt_of_seen_eq_false (h : g.seen pc = false) : pc < g.visited.size := by
  by_contra hlt
  simp [seen, Array.getElem?_eq_none (Nat.le_of_not_lt hlt)] at h

theorem seen_visit : (g.visit pc).seen k = (g.seen k || k == pc) := by
  unfold seen visit
  rcases eq_or_ne pc k with rfl | hne
  · rcases Nat.lt_or_ge pc g.visited.size with hlt | hge
    · simp [hlt]
    · simp [Array.getElem?_eq_none hge]
  · simp [Array.getElem?_setIfInBounds_ne hne, hne.symm]

theorem grows_visit : g.Grows (g.visit pc) where
  size := by simp [visit]
  seen h := by simp [seen_visit, h]
  threads := id

theorem unseen_visit (h : g.seen pc = false) : (g.visit pc).unseen < g.unseen := by
  refine Finset.card_lt_card (Finset.ssubset_iff_of_subset ?_ |>.2 ⟨pc, ?_, ?_⟩)
  · intro k hk
    rw [Finset.mem_filter, seen_visit, Bool.or_eq_false_iff, grows_visit.size] at hk
    exact Finset.mem_filter.2 ⟨hk.1, hk.2.1⟩
  · exact Finset.mem_filter.2 ⟨Finset.mem_range.2 (lt_of_seen_eq_false h), h⟩
  · simp [seen_visit]

end Gathering

/-- The instructions that a thread goes on to without taking a character. -/
def successors (prog : Program) (place : Place) (pc : Nat) : List Nat :=
  match prog[pc]? with
  | some (.split first second) => [first, second]
  | some (.save _ next) => [next]
  | some (.check a next) => if a.holds place.before place.after then [next] else []
  | _ => []

/-- Threads wait at an instruction for the next character. -/
def Waits (prog : Program) (pc : Nat) : Prop :=
  prog[pc]? = some .accept ∨ ∃ c next, prog[pc]? = some (.one c next)

/-- Everything that follows from a visit of an instruction has been gathered. -/
structure Handled (prog : Program) (place : Place) (g : Gathering) (pc : Nat) : Prop where
  seen : ∀ next ∈ successors prog place pc, g.seen next = true
  thread : Waits prog pc → ∃ t ∈ g.threads, t.pc = pc

theorem Handled.mono {place : Place} {g g' : Gathering} {pc : Nat} (h : Handled prog place g pc)
    (hgrows : g.Grows g') : Handled prog place g' pc where
  seen next hnext := hgrows.seen (h.seen next hnext)
  thread hwaits := by
    obtain ⟨t, ht, hpc⟩ := h.thread hwaits
    exact ⟨t, hgrows.threads ht, hpc⟩

/-- Something has been gathered, and what has been visited for it has been handled. -/
structure Handles (prog : Program) (place : Place) (g g' : Gathering) : Prop
    extends Gathering.Grows g g' where
  handled : ∀ {pc : Nat}, g'.seen pc = true → g.seen pc = true ∨ Handled prog place g' pc

section Handles

variable {place : Place} {g g' g'' : Gathering} {pc fuel : Nat}

theorem Handles.refl (g : Gathering) : Handles prog place g g := ⟨.refl g, .inl⟩

theorem Handles.trans (h : Handles prog place g g') (h' : Handles prog place g' g'') :
    Handles prog place g g'' where
  toGrows := h.toGrows.trans h'.toGrows
  handled hseen := by
    rcases h'.handled hseen with hseen | hhandled
    · rcases h.handled hseen with hseen | hhandled
      · exact .inl hseen
      · exact .inr (hhandled.mono h'.toGrows)
    · exact .inr hhandled

/-- A visit is complete when what follows from it has been gathered. -/
theorem Handles.of_visit (h : Handles prog place (g.visit pc) g') (hpc : Handled prog place g' pc) :
    Handles prog place g g' ∧ g'.seen pc = true := by
  refine ⟨⟨Gathering.grows_visit.trans h.toGrows, fun {k} hseen => ?_⟩,
    h.seen (by simp [Gathering.seen_visit])⟩
  rcases h.handled hseen with hseen | hhandled
  · rw [Gathering.seen_visit, Bool.or_eq_true, beq_iff_eq] at hseen
    rcases hseen with hseen | rfl
    · exact .inl hseen
    · exact .inr hpc
  · exact .inr hhandled

theorem unseen_visit_lt (hseen : ¬ g.seen pc = true) (hfuel : g.unseen < fuel + 1) :
    (g.visit pc).unseen < fuel :=
  Nat.lt_of_lt_of_le (Gathering.unseen_visit (Bool.eq_false_of_not_eq_true hseen))
    (Nat.le_of_lt_succ hfuel)

end Handles

section Follow

variable {place : Place} {fuel pc : Nat} {slots : Slots} {g : Gathering}

/-- Threads stand where paths lead. -/
theorem follow_sound {i : Nat} {t : Thread}
    (ht : t ∈ (follow prog (placeAt text i) fuel pc slots g).threads) :
    t ∈ g.threads ∨ Reaches prog text ⟨pc, ⟨i, slots⟩⟩ ⟨t.pc, ⟨i, t.slots⟩⟩ := by
  generalize hplace : placeAt text i = place at ht
  fun_induction follow prog place fuel pc slots g with
  | case1 => exact .inl ht
  | case2 => exact .inl ht
  | case3 fuel pc slots g _ g' first second hinstr ihfirst ihsecond =>
    rcases ihsecond ht with ht | hreach
    · rcases ihfirst ht with ht | hreach
      · exact .inl ht
      · exact .inr (hreach.of_step (.first hinstr))
    · exact .inr (hreach.of_step (.second hinstr))
  | case4 fuel pc slots g _ g' slot next hinstr ih =>
    subst hplace
    rcases ih ht with ht | hreach
    · exact .inl ht
    · exact .inr (hreach.of_step (.save hinstr))
  | case5 fuel pc slots g _ g' a next hinstr hholds ih =>
    subst hplace
    rcases ih ht with ht | hreach
    · exact .inl ht
    · exact .inr (hreach.of_step (.check hinstr hholds))
  | case6 fuel pc slots g _ g' a next _ _ => exact .inl ht
  | case7 fuel pc slots g _ g' instr _ _ _ _ =>
    rcases List.mem_cons.1 ht with rfl | ht
    · exact .inr (.refl _)
    · exact .inl ht
  | case8 fuel pc slots g _ g' _ => exact .inl ht

/-- With enough fuel nothing is left out. -/
theorem follow_handles (hfuel : g.unseen < fuel) :
    Handles prog place g (follow prog place fuel pc slots g) ∧
      (follow prog place fuel pc slots g).seen pc = true := by
  fun_induction follow prog place fuel pc slots g with
  | case1 => exact absurd hfuel (Nat.not_lt_zero _)
  | case2 fuel pc slots g hseen => exact ⟨.refl _, hseen⟩
  | case3 fuel pc slots g hseen g' first second hinstr ihfirst ihsecond =>
    have hfuel' : g'.unseen < fuel := unseen_visit_lt hseen hfuel
    obtain ⟨hfirst, hseenFirst⟩ := ihfirst hfuel'
    obtain ⟨hsecond, hseenSecond⟩ := ihsecond (Nat.lt_of_le_of_lt hfirst.unseen_le hfuel')
    refine (hfirst.trans hsecond).of_visit ⟨?_, ?_⟩
    · simp [successors, hinstr, hseenSecond, hsecond.seen hseenFirst]
    · simp [Waits, hinstr]
  | case4 fuel pc slots g hseen g' slot next hinstr ih =>
    obtain ⟨hnext, hseenNext⟩ := ih (unseen_visit_lt hseen hfuel)
    refine hnext.of_visit ⟨?_, ?_⟩
    · simp [successors, hinstr, hseenNext]
    · simp [Waits, hinstr]
  | case5 fuel pc slots g hseen g' a next hinstr hholds ih =>
    obtain ⟨hnext, hseenNext⟩ := ih (unseen_visit_lt hseen hfuel)
    refine hnext.of_visit ⟨?_, ?_⟩
    · simp [successors, hinstr, hseenNext]
    · simp [Waits, hinstr]
  | case6 fuel pc slots g hseen g' a next hinstr hholds =>
    refine (Handles.refl _).of_visit ⟨?_, ?_⟩
    · simp [successors, hinstr, hholds]
    · simp [Waits, hinstr]
  | case7 fuel pc slots g hseen g' instr hsplit hsave hcheck hinstr =>
    have hthread : Handles prog place g' { g' with threads := ⟨pc, slots⟩ :: g'.threads } :=
      ⟨⟨rfl, id, List.mem_cons_of_mem _⟩, .inl⟩
    refine hthread.of_visit ⟨?_, fun _ => ⟨_, List.mem_cons_self, rfl⟩⟩
    cases instr <;> simp_all [successors]
  | case8 fuel pc slots g hseen g' hinstr =>
    refine (Handles.refl _).of_visit ⟨?_, ?_⟩
    · simp [successors, hinstr]
    · simp [Waits, hinstr]

end Follow

/-! ## What has been gathered from the start -/

section Gathered

variable {place : Place} {g : Gathering} {pc : Nat}

theorem Gathering.unseen_le_size : g.unseen ≤ g.visited.size :=
  (Finset.card_filter_le _ _).trans_eq (Finset.card_range _)

theorem Handles.size_eq (h : Handles prog place (.start prog) g) : g.visited.size = prog.size := by
  rw [h.size]
  simp [Gathering.start]

/-- What a search follows is gathered without loss. -/
theorem Handles.follow (h : Handles prog place (.start prog) g) (pc : Nat) (slots : Slots) :
    Handles prog place g (follow prog place (prog.size + 1) pc slots g) ∧
      (Pattern.follow prog place (prog.size + 1) pc slots g).seen pc = true :=
  follow_handles (Nat.lt_succ_of_le (h.size_eq ▸ Gathering.unseen_le_size))

/-- At the start nothing but what is no instruction counts as visited. -/
theorem Handles.handled_of_seen (h : Handles prog place (.start prog) g) (hseen : g.seen pc = true) :
    Handled prog place g pc := by
  rcases h.handled hseen with hstart | hhandled
  · have hnone : prog[pc]? = none := by
      by_contra hsome
      have hlt : pc < prog.size := by
        by_contra hge
        exact hsome (Array.getElem?_eq_none (Nat.le_of_not_lt hge))
      simp [Gathering.seen, Gathering.start, hlt] at hstart
    exact ⟨by simp [successors, hnone], by simp [Waits, hnone]⟩
  · exact hhandled

end Gathered

/-! ## Acceptance without what is remembered -/

/-- From an instruction at an offset a program can come to one that accepts. -/
inductive Accepts (prog : Program) (text : List Char) : Nat → Nat → Prop
  | accept {pc i : Nat} (h : prog[pc]? = some .accept) : Accepts prog text pc i
  | silent {pc i next : Nat} (h : next ∈ successors prog (placeAt text i) pc)
      (hrest : Accepts prog text next i) : Accepts prog text pc i
  | one {pc i next : Nat} {c : CharClass} (h : prog[pc]? = some (.one c next))
      (htakes : Takes text c i) (hrest : Accepts prog text next (i + 1)) : Accepts prog text pc i

theorem Accepts.of_path {n : Nat} {c e : Config} (hpath : Path prog text n c e)
    (haccept : prog[e.pc]? = some .accept) : Accepts prog text c.pc c.progress.offset := by
  induction hpath with
  | refl => exact .accept haccept
  | step hstep _ ih =>
    have hrest := ih haccept
    cases hstep with
    | one h htakes => exact .one h htakes hrest
    | @check _ _ a _ h hholds =>
      have hholds : a.holds _ _ = true := hholds
      exact .silent (by simp [successors, h, hholds]) hrest
    | first h => exact .silent (by simp [successors, h]) hrest
    | second h => exact .silent (by simp [successors, h]) hrest
    | save h => exact .silent (by simp [successors, h]) hrest

/-- A thread that waits can still come to an instruction that accepts. -/
def Alive (prog : Program) (text : List Char) (i : Nat) (t : Thread) : Prop :=
  prog[t.pc]? = some .accept ∨
    ∃ c next, prog[t.pc]? = some (.one c next) ∧ Takes text c i ∧ Accepts prog text next (i + 1)

/-- A visit from which a program can come to an instruction that accepts leaves a thread that can.
-/
theorem Accepts.exists_alive {g : Gathering} {pc i : Nat} (h : Accepts prog text pc i)
    (hg : Handles prog (placeAt text i) (.start prog) g) (hseen : g.seen pc = true) :
    ∃ t ∈ g.threads, Alive prog text i t := by
  induction h with
  | accept h =>
    obtain ⟨t, ht, rfl⟩ := (hg.handled_of_seen hseen).thread (.inl h)
    exact ⟨t, ht, .inl h⟩
  | silent h _ ih => exact ih hg ((hg.handled_of_seen hseen).seen _ h)
  | one h htakes hrest =>
    obtain ⟨t, ht, rfl⟩ := (hg.handled_of_seen hseen).thread (.inr ⟨_, _, h⟩)
    exact ⟨t, ht, .inr ⟨_, _, h, htakes, hrest⟩⟩

/-! ## Taking a character -/

section TakeChar

variable {c : Option Char} {place : Place} {ts : List Thread} {g : Gathering} {best : Option Slots}

theorem takeChar_handles (hg : Handles prog place (.start prog) g) :
    Handles prog place g (takeChar prog c place ts g best).1 := by
  fun_induction takeChar prog c place ts g best with
  | case1 => exact .refl _
  | case2 => exact .refl _
  | case3 t ts g best cls next x hinstr htakes ih =>
    have hnext := (hg.follow next t.slots).1
    exact hnext.trans (ih (hg.trans hnext))
  | case4 t ts g best cls next x hinstr htakes ih => exact ih hg
  | case5 t ts g best c haccept hone ih => exact ih hg

/-- A match that has been found is only given up for another one. -/
theorem takeChar_isSome (hbest : best.isSome = true) :
    (takeChar prog c place ts g best).2.isSome = true := by
  fun_induction takeChar prog c place ts g best with
  | case1 => exact hbest
  | case2 => rfl
  | case3 t ts g best cls next x hinstr htakes ih => exact ih hbest
  | case4 t ts g best cls next x hinstr htakes ih => exact ih hbest
  | case5 t ts g best c haccept hone ih => exact ih hbest

/-- A thread that can come to an instruction that accepts does so, or goes on. -/
theorem takeChar_alive {i : Nat} {t : Thread} (ht : t ∈ ts) (halive : Alive prog text i t)
    (hg : Handles prog place (.start prog) g) :
    (takeChar prog text[i]? place ts g best).2.isSome = true ∨
      ∃ x pc, text[i]? = some x ∧ (takeChar prog text[i]? place ts g best).1.seen pc = true ∧
        Accepts prog text pc (i + 1) := by
  generalize hc : text[i]? = c
  fun_induction takeChar prog c place ts g best with
  | case1 => exact absurd ht List.not_mem_nil
  | case2 => exact .inl rfl
  | case3 u ts g best cls next x hinstr htakes ih =>
    obtain ⟨hnext, hseen⟩ := hg.follow next u.slots
    rcases List.mem_cons.1 ht with rfl | ht
    · rcases halive with haccept | ⟨c, pc, hone, -, hrest⟩
      · cases haccept.symm.trans hinstr
      · cases hone.symm.trans hinstr
        exact .inr ⟨x, _, rfl, (takeChar_handles (hg.trans hnext)).seen hseen, hrest⟩
    · exact ih ht (hg.trans hnext) hc
  | case4 u ts g best cls next x hinstr htakes ih =>
    rcases List.mem_cons.1 ht with rfl | ht
    · rcases halive with haccept | ⟨c, pc, hone, ⟨y, hy, hcontains⟩, -⟩
      · cases haccept.symm.trans hinstr
      · cases hone.symm.trans hinstr
        cases hy.symm.trans hc
        exact absurd hcontains htakes
    · exact ih ht hg hc
  | case5 u ts g best c haccept hone ih =>
    rcases List.mem_cons.1 ht with rfl | ht
    · rcases halive with haccept' | ⟨cls, pc, hone', ⟨y, hy, -⟩, -⟩
      · exact (haccept haccept').elim
      · exact (hone _ _ _ hone' (hc.symm.trans hy)).elim
    · exact ih ht hg hc

end TakeChar

/-! ## Walking a text -/

theorem placeAt_succ {i : Nat} {x : Char} (hx : text[i]? = some x) :
    placeAt text (i + 1) = ⟨i + 1, some x, text[i + 1]?⟩ := by
  simp [placeAt, hx]

section Drop

variable {i : Nat} {x : Char} {cs : List Char}

theorem getElem?_of_drop_eq_cons (h : text.drop i = x :: cs) : text[i]? = some x := by
  rw [← List.head?_drop, h]
  rfl

theorem drop_succ_of_drop_eq_cons (h : text.drop i = x :: cs) : text.drop (i + 1) = cs := by
  rw [← List.tail_drop, h]
  rfl

end Drop

/-- One step of a walk. -/
theorem walk_cons {x : Char} {cs : List Char} {i : Nat} {ts : List Thread} {best : Option Slots}
    (hcs : text.drop i = x :: cs) :
    walk prog (x :: cs) i ts best =
      let taken := takeChar prog text[i]? (placeAt text (i + 1)) ts (.start prog) best
      if taken.1.threads = [] then taken.2
      else walk prog cs (i + 1) taken.1.threads.reverse taken.2 := by
  have hx := getElem?_of_drop_eq_cons hcs
  have hnext : cs.head? = text[i + 1]? := by
    rw [← List.head?_drop, drop_succ_of_drop_eq_cons hcs]
  rw [walk, hnext, placeAt_succ hx, hx]
  generalize takeChar prog (some x) ⟨i + 1, some x, text[i + 1]?⟩ ts (.start prog) best = taken
  obtain ⟨⟨visited, threads⟩, best⟩ := taken
  cases threads with
  | nil => rfl
  | cons t ts => rfl

/-- A thread that can come to an instruction that accepts is not lost. -/
theorem walk_complete {cs : List Char} {i : Nat} {ts : List Thread} {best : Option Slots}
    (hcs : text.drop i = cs) (h : best.isSome = true ∨ ∃ t ∈ ts, Alive prog text i t) :
    (walk prog cs i ts best).isSome = true := by
  induction cs generalizing i ts best with
  | nil =>
    have hend : text[i]? = none := by rw [← List.head?_drop, hcs]; rfl
    rcases h with hbest | ⟨t, ht, halive⟩
    · exact takeChar_isSome hbest
    · rcases takeChar_alive ht halive (.refl (.start prog)) with hfound | ⟨x, -, hx, -⟩
      · rw [hend] at hfound
        exact hfound
      · cases hend.symm.trans hx
  | cons x cs ih =>
    rw [walk_cons hcs]
    have hrest := drop_succ_of_drop_eq_cons hcs
    generalize htaken : takeChar prog text[i]? (placeAt text (i + 1)) ts (.start prog) best = taken
    have hgathered : Handles prog (placeAt text (i + 1)) (.start prog) taken.1 :=
      htaken ▸ takeChar_handles (.refl _)
    -- Either a match has been found, or a thread that was alive has passed its life on.
    have hnext : taken.2.isSome = true ∨ ∃ t ∈ taken.1.threads, Alive prog text (i + 1) t := by
      rcases h with hbest | ⟨t, ht, halive⟩
      · exact .inl (htaken ▸ takeChar_isSome hbest)
      · rcases takeChar_alive ht halive (.refl (.start prog)) with hfound | ⟨y, pc, -, hseen, hacc⟩
        · exact .inl (htaken ▸ hfound)
        · exact .inr (hacc.exists_alive hgathered (htaken ▸ hseen))
    by_cases hempty : taken.1.threads = []
    · rw [if_pos hempty]
      simpa [hempty] using hnext
    · rw [if_neg hempty]
      exact ih hrest (by simpa using hnext)

/-- Threads stand where paths from a configuration lead. -/
def Stand (prog : Program) (text : List Char) (c : Config) (i : Nat) (ts : List Thread) : Prop :=
  ∀ t ∈ ts, Reaches prog text c ⟨t.pc, ⟨i, t.slots⟩⟩

/-- What has been found is remembered by a path that accepts. -/
def Found (prog : Program) (text : List Char) (c : Config) (best : Option Slots) : Prop :=
  ∀ slots, best = some slots → ∃ j, Accepted prog text c ⟨j, slots⟩

theorem takeChar_sound {c : Config} {i : Nat} {place : Place} {ts : List Thread} {g : Gathering}
    {best : Option Slots} (hts : Stand prog text c i ts) (hbest : Found prog text c best)
    (hg : Stand prog text c (i + 1) g.threads)
    (hplace : ∀ x, text[i]? = some x → place = placeAt text (i + 1)) :
    Stand prog text c (i + 1) (takeChar prog text[i]? place ts g best).1.threads ∧
      Found prog text c (takeChar prog text[i]? place ts g best).2 := by
  generalize hc : text[i]? = x at hplace
  fun_induction takeChar prog x place ts g best with
  | case1 => exact ⟨hg, hbest⟩
  | case2 x t ts g best haccept =>
    refine ⟨hg, fun slots hslots => ?_⟩
    obtain ⟨n, hpath⟩ := hts t List.mem_cons_self
    cases hslots
    exact ⟨i, n, t.pc, hpath, haccept⟩
  | case3 t ts g best cls next x hinstr htakes ih =>
    refine ih (fun u hu => hts u (List.mem_cons_of_mem t hu)) hbest (fun u hu => ?_) hc hplace
    rw [hplace x rfl] at hu
    rcases follow_sound hu with hu | hreach
    · exact hg u hu
    · exact (hts t List.mem_cons_self).trans (hreach.of_step (.one hinstr ⟨x, hc, htakes⟩))
  | case4 t ts g best cls next x hinstr htakes ih =>
    exact ih (fun u hu => hts u (List.mem_cons_of_mem t hu)) hbest hg hc hplace
  | case5 t ts g best x haccept hone ih =>
    exact ih (fun u hu => hts u (List.mem_cons_of_mem t hu)) hbest hg hc hplace

theorem walk_sound {c : Config} {cs : List Char} {i : Nat} {ts : List Thread} {best : Option Slots}
    (hcs : text.drop i = cs) (hts : Stand prog text c i ts) (hbest : Found prog text c best) :
    Found prog text c (walk prog cs i ts best) := by
  have hstart {j : Nat} : Stand prog text c j (Gathering.start prog).threads := by
    intro t ht
    cases ht
  induction cs generalizing i ts best with
  | nil =>
    have hend : text[i]? = none := by rw [← List.head?_drop, hcs]; rfl
    have hplace : ∀ x, text[i]? = some x → (⟨i, none, none⟩ : Place) = placeAt text (i + 1) := by
      simp [hend]
    have hdone := (takeChar_sound hts hbest hstart hplace).2
    rw [hend] at hdone
    exact hdone
  | cons x cs ih =>
    obtain ⟨hnext, hfound⟩ := takeChar_sound hts hbest hstart fun _ _ => rfl
    rw [walk_cons hcs]
    dsimp only
    split
    · exact hfound
    · exact ih (drop_succ_of_drop_eq_cons hcs) (fun t ht => hnext t (List.mem_reverse.1 ht)) hfound

/-! ## The search at one offset -/

section MatchAt

variable {entry groups i : Nat}

/-- What a search at an offset begins with. -/
def Config.start (entry groups i : Nat) : Config := ⟨entry, ⟨i, Array.replicate (2 * groups) none⟩⟩

theorem matchAt_eq :
    matchAt prog entry groups i (placeAt text i).before (text.drop i) =
      walk prog (text.drop i) i (follow prog (placeAt text i) (prog.size + 1) entry
        (Array.replicate (2 * groups) none) (.start prog)).threads.reverse none := by
  rw [matchAt, List.head?_drop]
  rfl

/-- What the search finds at an offset, a path has remembered. -/
theorem matchAt_sound {slots : Slots}
    (h : matchAt prog entry groups i (placeAt text i).before (text.drop i) = some slots) :
    ∃ j, Accepted prog text (.start entry groups i) ⟨j, slots⟩ := by
  rw [matchAt_eq] at h
  refine walk_sound rfl (fun t ht => ?_) (fun _ hnone => ?_) slots h
  · rcases follow_sound (List.mem_reverse.1 ht) with ht | hreach
    · cases ht
    · exact hreach
  · cases hnone

/-- The search finds something wherever a path accepts. -/
theorem matchAt_complete {s' : Progress} (h : Accepted prog text (.start entry groups i) s') :
    (matchAt prog entry groups i (placeAt text i).before (text.drop i)).isSome = true := by
  obtain ⟨n, pc, hpath, haccept⟩ := h
  obtain ⟨hgathered, hseen⟩ := (Handles.refl (.start prog)).follow entry
    (Array.replicate (2 * groups) none)
  obtain ⟨t, ht, halive⟩ := (Accepts.of_path hpath haccept).exists_alive hgathered hseen
  rw [matchAt_eq]
  exact walk_complete rfl (.inr ⟨t, List.mem_reverse.2 ht, halive⟩)

end MatchAt

end ObjectGateway.Pattern
