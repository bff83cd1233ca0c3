import ObjectGateway.Pattern.Search

/-!
# Programs of patterns

What a pattern matches, and that its program does the same.  `Matches` says how far a match of a
pattern can lead and what it remembers, by recursion on the pattern.  A program goes from one
configuration to the next by `Step`.  `Realizes` says that the instructions which a compiler puts
before an instruction lead to it exactly as a relation does; it is carried through every way in
which programs are put together, so that `compile_realizes` is an induction on the pattern.
-/

namespace ObjectGateway.Pattern

/-- How far a match has come, and what it remembers. -/
structure Progress where
  offset : Nat
  slots : Slots

/-- Remember the present offset. -/
def Progress.save (s : Progress) (slot : Nat) : Progress :=
  ⟨s.offset, s.slots.setIfInBounds slot (some s.offset)⟩

/-- The place at an offset of a text. -/
def placeAt (text : List Char) (i : Nat) : Place :=
  ⟨i, if i = 0 then none else text[i - 1]?, text[i]?⟩

/-- A condition holds at an offset of a text. -/
def HoldsAt (text : List Char) (a : Anchor) (i : Nat) : Prop :=
  a.holds (placeAt text i).before (placeAt text i).after = true

/-- A class takes the character at an offset of a text. -/
def Takes (text : List Char) (c : CharClass) (i : Nat) : Prop :=
  ∃ x, text[i]? = some x ∧ c.contains x = true

/-- So many steps of a relation. -/
def Times {α : Type} (R : α → α → Prop) : Nat → α → α → Prop
  | 0, s, s' => s' = s
  | n + 1, s, s' => ∃ t, R s t ∧ Times R n t s'

/-- How far a match of a pattern can lead, and what it remembers then.  Of the bounds of a
repetition, an upper one below the lower one counts for nothing. -/
def Matches (text : List Char) : Pattern → Progress → Progress → Prop
  | .empty, s, s' => s' = s
  | .one c, s, s' => Takes text c s.offset ∧ s' = ⟨s.offset + 1, s.slots⟩
  | .place a, s, s' => HoldsAt text a s.offset ∧ s' = s
  | .group k p, s, s' => ∃ t, Matches text p (s.save (2 * k)) t ∧ s' = t.save (2 * k + 1)
  | .seq l r, s, s' => ∃ t, Matches text l s t ∧ Matches text r t s'
  | .alt l r, s, s' => Matches text l s s' ∨ Matches text r s s'
  | .repeated p low high _, s, s' =>
    ∃ n, low ≤ n ∧ (∀ h, high = some h → n ≤ max low h) ∧ Times (Matches text p) n s s'

/-! ## Runs of programs -/

/-- Where a program stands. -/
structure Config where
  pc : Nat
  progress : Progress

/-- A program goes on by one instruction. -/
inductive Step (prog : Program) (text : List Char) : Config → Config → Prop
  | one {pc next : Nat} {c : CharClass} {s : Progress} (h : prog[pc]? = some (.one c next))
      (htakes : Takes text c s.offset) : Step prog text ⟨pc, s⟩ ⟨next, ⟨s.offset + 1, s.slots⟩⟩
  | check {pc next : Nat} {a : Anchor} {s : Progress} (h : prog[pc]? = some (.check a next))
      (hholds : HoldsAt text a s.offset) : Step prog text ⟨pc, s⟩ ⟨next, s⟩
  | first {pc a b : Nat} {s : Progress} (h : prog[pc]? = some (.split a b)) :
      Step prog text ⟨pc, s⟩ ⟨a, s⟩
  | second {pc a b : Nat} {s : Progress} (h : prog[pc]? = some (.split a b)) :
      Step prog text ⟨pc, s⟩ ⟨b, s⟩
  | save {pc slot next : Nat} {s : Progress} (h : prog[pc]? = some (.save slot next)) :
      Step prog text ⟨pc, s⟩ ⟨next, s.save slot⟩

section Steps

variable {prog : Program} {text : List Char} {pc next slot a b : Nat} {c : CharClass} {x : Anchor}
  {s : Progress} {e : Config}

theorem step_one_iff (h : prog[pc]? = some (.one c next)) :
    Step prog text ⟨pc, s⟩ e ↔ Takes text c s.offset ∧ e = ⟨next, ⟨s.offset + 1, s.slots⟩⟩ := by
  constructor
  · rintro (⟨h', htakes⟩ | h' | h' | h' | h') <;> cases h'.symm.trans h
    exact ⟨htakes, rfl⟩
  · rintro ⟨htakes, rfl⟩
    exact .one h htakes

theorem step_check_iff (h : prog[pc]? = some (.check x next)) :
    Step prog text ⟨pc, s⟩ e ↔ HoldsAt text x s.offset ∧ e = ⟨next, s⟩ := by
  constructor
  · rintro (h' | ⟨h', hholds⟩ | h' | h' | h') <;> cases h'.symm.trans h
    exact ⟨hholds, rfl⟩
  · rintro ⟨hholds, rfl⟩
    exact .check h hholds

theorem step_split_iff (h : prog[pc]? = some (.split a b)) :
    Step prog text ⟨pc, s⟩ e ↔ e = ⟨a, s⟩ ∨ e = ⟨b, s⟩ := by
  constructor
  · rintro (h' | h' | h' | h' | h') <;> cases h'.symm.trans h
    · exact .inl rfl
    · exact .inr rfl
  · rintro (rfl | rfl)
    · exact .first h
    · exact .second h

theorem step_save_iff (h : prog[pc]? = some (.save slot next)) :
    Step prog text ⟨pc, s⟩ e ↔ e = ⟨next, s.save slot⟩ := by
  constructor
  · rintro (h' | h' | h' | h' | h') <;> cases h'.symm.trans h
    rfl
  · rintro rfl
    exact .save h

end Steps

/-- A program goes on by so many instructions. -/
inductive Path (prog : Program) (text : List Char) : Nat → Config → Config → Prop
  | refl (c : Config) : Path prog text 0 c c
  | step {n : Nat} {c d e : Config} (h : Step prog text c d) (hrest : Path prog text n d e) :
      Path prog text (n + 1) c e

theorem Path.trans {prog : Program} {text : List Char} {m n : Nat} {c d e : Config}
    (h : Path prog text m c d) (hrest : Path prog text n d e) : Path prog text (n + m) c e := by
  induction h with
  | refl => exact hrest
  | step hstep _ ih => exact .step hstep (ih hrest)

theorem Path.single {prog : Program} {text : List Char} {c d : Config} (h : Step prog text c d) :
    Path prog text 1 c d := .step h (.refl d)

/-! ## Fragments -/

/-- A program begins with another one. -/
structure Extends (p q : Program) : Prop where
  size : p.size ≤ q.size
  same : ∀ k < p.size, q[k]? = p[k]?

/-- A program has the instructions of another one from a position on. -/
def Shares (low : Nat) (p q : Program) : Prop := ∀ k, low ≤ k → k < p.size → q[k]? = p[k]?

theorem Extends.trans {p q r : Program} (h : Extends p q) (h' : Extends q r) : Extends p r where
  size := Nat.le_trans h.size h'.size
  same k hk := (h'.same k (Nat.lt_of_lt_of_le hk h.size)).trans (h.same k hk)

theorem Extends.push (p : Program) (i : Instr) : Extends p (p.push i) where
  size := by simp
  same k hk := by rw [Array.getElem?_push_lt hk, Array.getElem?_eq_getElem hk]

theorem Shares.of_extends {low : Nat} {p p' q : Program} (h : Shares low p' q)
    (hext : Extends p p') : Shares low p q := fun k hlow hk =>
  (h k hlow (Nat.lt_of_lt_of_le hk hext.size)).trans (hext.same k hk)

theorem Shares.mono {low low' : Nat} {p q : Program} (h : Shares low p q) (hle : low ≤ low') :
    Shares low' p q := fun k hlow hk => h k (Nat.le_trans hle hlow) hk

theorem Shares.last {p q : Program} {i : Instr} (h : Shares p.size (p.push i) q) :
    q[p.size]? = some i := by
  rw [h p.size (Nat.le_refl _) (by simp), Array.getElem?_push_size]

/-- What a compiler of fragments does: it puts instructions before a given one, and tells where to
begin. -/
abbrev Compiler := Nat → Program → Program × Nat

/-- The instructions of a fragment lead to the instruction behind it exactly as a relation says,
whatever program they stand in. -/
structure Realizes (text : List Char) (f : Compiler) (R : Progress → Progress → Prop) : Prop where
  grows : ∀ {next : Nat} {p : Program}, next < p.size → Extends p (f next p).1
  begins : ∀ {next : Nat} {p : Program}, next < p.size → (f next p).2 < (f next p).1.size
  goesOn : ∀ {next : Nat} {p : Program} {k : Nat}, next < p.size → p.size ≤ k →
    (f next p).1[k]? ≠ some .accept
  leads : ∀ {next : Nat} {p q : Program}, next < p.size → Shares p.size (f next p).1 q →
    ∀ {s s' : Progress}, R s s' → ∃ n, Path q text n ⟨(f next p).2, s⟩ ⟨next, s'⟩
  /-- A path that leaves a fragment comes by the instruction behind it. -/
  leaves : ∀ {next : Nat} {p q : Program}, next < p.size → Shares p.size (f next p).1 q →
    ∀ {n : Nat} {s : Progress} {e : Config}, Path q text n ⟨(f next p).2, s⟩ e →
      e.pc < p.size ∨ (f next p).1.size ≤ e.pc →
        ∃ m ≤ n, ∃ s', R s s' ∧ Path q text m ⟨next, s'⟩ e

section Compilers

variable {text : List Char} {f g : Compiler} {R S : Progress → Progress → Prop}

theorem Realizes.congr (hf : Realizes text f R) (h : ∀ s s', R s s' ↔ S s s') :
    Realizes text f S := by
  obtain rfl : R = S := funext fun s => funext fun s' => propext (h s s')
  exact hf

/-- No instructions. -/
theorem Realizes.nothing : Realizes text (fun next p => (p, next)) fun s s' => s' = s where
  grows _ := ⟨Nat.le_refl _, fun _ _ => rfl⟩
  begins h := h
  goesOn _ hk := by simp [Array.getElem?_eq_none hk]
  leads := by
    rintro next p q _ _ s s' rfl
    exact ⟨0, .refl _⟩
  leaves _ _ := fun hpath _ => ⟨_, Nat.le_refl _, _, rfl, hpath⟩

/-- One instruction that does what a relation says. -/
theorem Realizes.single {i : Nat → Instr} (haccept : ∀ next, i next ≠ .accept)
    (hstep : ∀ {q : Program} {pc next : Nat} {s : Progress} {e : Config},
      q[pc]? = some (i next) → (Step q text ⟨pc, s⟩ e ↔ ∃ s', R s s' ∧ e = ⟨next, s'⟩)) :
    Realizes text (fun next p => p.add (i next)) R where
  grows _ := .push _ _
  begins _ := by simp [Program.add]
  goesOn {next p k} _ hk := by
    rcases Nat.lt_or_eq_of_le hk with hk | rfl
    · simp [Program.add, Array.getElem?_eq_none (show (p.push (i next)).size ≤ k by simp; omega)]
    · simpa [Program.add] using haccept next
  leads := by
    intro next p q _ hshares s s' hR
    exact ⟨1, .single ((hstep hshares.last).2 ⟨s', hR, rfl⟩)⟩
  leaves := by
    intro next p q _ hshares n s e hpath hout
    cases hpath with
    | refl =>
      change p.size < p.size ∨ (p.push (i next)).size ≤ p.size at hout
      rw [Array.size_push] at hout
      omega
    | @step n c d e hfirst hrest =>
      obtain ⟨s', hR, rfl⟩ := (hstep hshares.last).1 hfirst
      exact ⟨n, Nat.le_succ n, s', hR, hrest⟩

/-- One fragment before another. -/
theorem Realizes.seq (hf : Realizes text f R) (hg : Realizes text g S) :
    Realizes text (fun next p => f (g next p).2 (g next p).1) fun s s' => ∃ t, R s t ∧ S t s' where
  grows h := (hg.grows h).trans (hf.grows (hg.begins h))
  begins h := hf.begins (hg.begins h)
  goesOn {next p k} h hk := by
    rcases Nat.lt_or_ge k (g next p).1.size with hlt | hge
    · rw [(hf.grows (hg.begins h)).same k hlt]
      exact hg.goesOn h hk
    · exact hf.goesOn (hg.begins h) hge
  leads := by
    rintro next p q h hshares s s' ⟨t, hR, hS⟩
    obtain ⟨m, hfirst⟩ := hf.leads (hg.begins h) (hshares.mono (hg.grows h).size) hR
    obtain ⟨n, hsecond⟩ := hg.leads h (hshares.of_extends (hf.grows (hg.begins h))) hS
    exact ⟨n + m, hfirst.trans hsecond⟩
  leaves := by
    intro next p q h hshares n s e hpath hout
    have hgrown := (hg.grows h).size
    have hgrown' := (hf.grows (hg.begins h)).size
    obtain ⟨m, hm, t, hR, hrest⟩ :=
      hf.leaves (hg.begins h) (hshares.mono hgrown) hpath (by omega)
    obtain ⟨l, hl, s', hS, hlast⟩ :=
      hg.leaves h (hshares.of_extends (hf.grows (hg.begins h))) hrest (by omega)
    exact ⟨l, by omega, s', ⟨t, hR, hS⟩, hlast⟩

/-- A choice between two fragments. -/
def branch (f g : Compiler) : Compiler := fun next p =>
  let second := g next p
  let first := f next second.1
  first.1.add (.split first.2 second.2)

section Branch

variable {next : Nat} {p q : Program}

theorem branch_extends (hf : Realizes text f R) (hg : Realizes text g S) (h : next < p.size) :
    next < (g next p).1.size ∧ Extends p (g next p).1 ∧
      Extends (g next p).1 (f next (g next p).1).1 ∧
        Extends (f next (g next p).1).1 (branch f g next p).1 :=
  have hsecond := hg.grows h
  have hnext := Nat.lt_of_lt_of_le h hsecond.size
  ⟨hnext, hsecond, hf.grows hnext, .push _ _⟩

/-- The last instruction of a choice is the choice. -/
theorem branch_split :
    (branch f g next p).1[(branch f g next p).2]? =
      some (.split (f next (g next p).1).2 (g next p).2) := by
  simp [branch, Program.add]

theorem branch_size : (branch f g next p).1.size = (branch f g next p).2 + 1 := by
  simp [branch, Program.add]

theorem branch_begins : (branch f g next p).2 = (f next (g next p).1).1.size := rfl

/-- What stands in a program that has a choice. -/
theorem branch_shares (hf : Realizes text f R) (hg : Realizes text g S) (h : next < p.size)
    (hshares : Shares p.size (branch f g next p).1 q) :
    q[(branch f g next p).2]? = some (.split (f next (g next p).1).2 (g next p).2) ∧
      Shares (g next p).1.size (f next (g next p).1).1 q ∧ Shares p.size (g next p).1 q := by
  obtain ⟨-, hsecond, hfirst, hlast⟩ := branch_extends hf hg h
  have hinside : (branch f g next p).2 < (branch f g next p).1.size := by
    rw [branch_size]
    exact Nat.lt_succ_self _
  have hbehind : p.size ≤ (branch f g next p).2 := Nat.le_trans hsecond.size hfirst.size
  exact ⟨(hshares _ hbehind hinside).trans branch_split,
    (hshares.of_extends hlast).mono hsecond.size, hshares.of_extends (hfirst.trans hlast)⟩

end Branch

theorem Realizes.branch (hf : Realizes text f R) (hg : Realizes text g S) :
    Realizes text (branch f g) fun s s' => R s s' ∨ S s s' where
  grows h := by
    obtain ⟨-, hsecond, hfirst, hlast⟩ := branch_extends hf hg h
    exact (hsecond.trans hfirst).trans hlast
  begins _ := by
    rw [branch_size]
    exact Nat.lt_succ_self _
  goesOn {next p k} h hk := by
    obtain ⟨hnext, hsecond, hfirst, hlast⟩ := branch_extends hf hg h
    rcases Nat.lt_trichotomy k (Pattern.branch f g next p).2 with hlt | rfl | hgt
    · rw [hlast.same k hlt]
      rcases Nat.lt_or_ge k (g next p).1.size with hlt' | hge
      · rw [hfirst.same k hlt']
        exact hg.goesOn h hk
      · exact hf.goesOn hnext hge
    · simp [branch_split]
    · have hout : (Pattern.branch f g next p).1.size ≤ k := by
        rw [branch_size]
        exact hgt
      simp [Array.getElem?_eq_none hout]
  leads := by
    intro next p q h hshares s s' hRS
    obtain ⟨hinstr, hfirst, hsecond⟩ := branch_shares hf hg h hshares
    rcases hRS with hR | hS
    · obtain ⟨n, hpath⟩ := hf.leads (branch_extends hf hg h).1 hfirst hR
      exact ⟨n + 1, .step (.first hinstr) hpath⟩
    · obtain ⟨n, hpath⟩ := hg.leads h hsecond hS
      exact ⟨n + 1, .step (.second hinstr) hpath⟩
  leaves := by
    intro next p q h hshares n s e hpath hout
    obtain ⟨hinstr, hfirst, hsecond⟩ := branch_shares hf hg h hshares
    obtain ⟨hnext, ⟨hgrown, -⟩, ⟨hgrown', -⟩, hgrown'', -⟩ := branch_extends hf hg h
    cases hpath with
    | refl =>
      rw [branch_size] at hout
      change (Pattern.branch f g next p).2 < _ ∨ _ ≤ (Pattern.branch f g next p).2 at hout
      rw [branch_begins] at hout
      omega
    | step hstep hrest =>
      rcases (step_split_iff hinstr).1 hstep with rfl | rfl
      · obtain ⟨m, hm, s', hR, hlast⟩ := hf.leaves hnext hfirst hrest (by omega)
        exact ⟨m, by omega, s', .inl hR, hlast⟩
      · obtain ⟨m, hm, s', hS, hlast⟩ := hg.leaves h hsecond hrest (by omega)
        exact ⟨m, by omega, s', .inr hS, hlast⟩

/-! ### Repetitions -/

/-- A fragment may be skipped. -/
theorem Realizes.optional (hf : Realizes text f R) (greedy : Bool) :
    Realizes text (fun next p => (f next p).1.add (choose greedy (f next p).2 next))
      fun s s' => R s s' ∨ s' = s := by
  cases greedy with
  | true => exact hf.branch .nothing
  | false => exact (Realizes.nothing.branch hf).congr fun _ _ => Or.comm

theorem Realizes.copies (hf : Realizes text f R) (n : Nat) :
    Realizes text (copies f n) (Times R n) := by
  induction n with
  | zero => exact .nothing
  | succ n ih => exact hf.seq ih

/-- At most so many steps of a relation. -/
def AtMost {α : Type} (R : α → α → Prop) (n : Nat) (s s' : α) : Prop := ∃ k ≤ n, Times R k s s'

theorem atMost_succ_iff {α : Type} {R : α → α → Prop} {n : Nat} {s s' : α} :
    AtMost R (n + 1) s s' ↔ (∃ t, R s t ∧ AtMost R n t s') ∨ s' = s := by
  constructor
  · rintro ⟨k, hk, htimes⟩
    cases k with
    | zero => exact .inr htimes
    | succ k =>
      obtain ⟨t, hR, hrest⟩ := htimes
      exact .inl ⟨t, hR, k, Nat.le_of_succ_le_succ hk, hrest⟩
  · rintro (⟨t, hR, k, hk, hrest⟩ | rfl)
    · exact ⟨k + 1, Nat.succ_le_succ hk, t, hR, hrest⟩
    · exact ⟨0, Nat.zero_le _, rfl⟩

theorem Realizes.optionalCopies (hf : Realizes text f R) (greedy : Bool) (n : Nat) :
    Realizes text (fun next p => optionalCopies f greedy next n p) (AtMost R n) := by
  induction n with
  | zero =>
    refine Realizes.nothing.congr fun s s' => ⟨fun h => ⟨0, Nat.le_refl 0, h⟩, ?_⟩
    rintro ⟨k, hk, htimes⟩
    cases Nat.le_zero.1 hk
    exact htimes
  | succ n ih => exact ((hf.seq ih).optional greedy).congr fun _ _ => atMost_succ_iff.symm

theorem times_add_iff {α : Type} {R : α → α → Prop} {m n : Nat} {s s' : α} :
    Times R (m + n) s s' ↔ ∃ t, Times R m s t ∧ Times R n t s' := by
  induction m generalizing s with
  | zero => simp [Times]
  | succ m ih =>
    rw [Nat.succ_add]
    simp only [Times, ih]
    constructor
    · rintro ⟨t, hR, u, hm, hn⟩
      exact ⟨u, ⟨t, hR, hm⟩, hn⟩
    · rintro ⟨u, ⟨t, hR, hm⟩, hn⟩
      exact ⟨t, hR, u, hm, hn⟩

section Loop

variable {greedy : Bool} {next : Nat} {p q : Program}

theorem loopOnce_eq : loopOnce f greedy next p =
    ((f p.size (p.push .accept)).1.setIfInBounds p.size
      (choose greedy (f p.size (p.push .accept)).2 next), (f p.size (p.push .accept)).2) := rfl

/-- What is repeated stands behind the place that is kept for the choice. -/
theorem loopOnce_grows (hf : Realizes text f R) :
    Extends (p.push .accept) (f p.size (p.push .accept)).1 ∧
      p.size < (f p.size (p.push .accept)).1.size := by
  have hbody : Extends (p.push .accept) (f p.size (p.push .accept)).1 := hf.grows (by simp)
  have hgrown := hbody.size
  rw [Array.size_push] at hgrown
  exact ⟨hbody, hgrown⟩

theorem loopOnce_size : (loopOnce f greedy next p).1.size = (f p.size (p.push .accept)).1.size := by
  simp [loopOnce_eq]

/-- Where a loop begins anew is the place that was kept for it. -/
theorem loopOnce_again (hf : Realizes text f R) :
    (loopOnce f greedy next p).1[p.size]? =
      some (choose greedy (f p.size (p.push .accept)).2 next) := by
  rw [loopOnce_eq, Array.getElem?_setIfInBounds_self_of_lt (loopOnce_grows hf).2]

/-- Elsewhere a loop has the instructions of what is repeated. -/
theorem loopOnce_body {k : Nat} (hk : k ≠ p.size) :
    (loopOnce f greedy next p).1[k]? = (f p.size (p.push .accept)).1[k]? := by
  rw [loopOnce_eq, Array.getElem?_setIfInBounds_ne (Ne.symm hk)]

theorem loopOnce_shares (hf : Realizes text f R)
    (hshares : Shares p.size (loopOnce f greedy next p).1 q) :
    q[p.size]? = some (choose greedy (f p.size (p.push .accept)).2 next) ∧
      Shares (p.push .accept).size (f p.size (p.push .accept)).1 q := by
  constructor
  · rw [hshares p.size (Nat.le_refl _) (by rw [loopOnce_size]; exact (loopOnce_grows hf).2),
      loopOnce_again hf]
  · intro k hlow hk
    rw [Array.size_push] at hlow
    rw [hshares k (by omega) (by rwa [loopOnce_size]), loopOnce_body (by omega)]

/-- A choice goes on or leaves. -/
theorem step_choose_iff {pc more done : Nat} {s : Progress} {e : Config}
    (h : q[pc]? = some (choose greedy more done)) :
    Step q text ⟨pc, s⟩ e ↔ e = ⟨more, s⟩ ∨ e = ⟨done, s⟩ := by
  cases greedy with
  | true => exact step_split_iff h
  | false => exact (step_split_iff h).trans Or.comm

end Loop

/-- A fragment that is repeated at least once. -/
theorem Realizes.loopOnce (hf : Realizes text f R) (greedy : Bool) :
    Realizes text (fun next p => loopOnce f greedy next p) fun s s' => ∃ n, Times R (n + 1) s s' where
  grows {next p} h := by
    obtain ⟨hbody, hgrown⟩ := loopOnce_grows (p := p) hf
    refine ⟨by rw [loopOnce_size]; exact Nat.le_of_lt hgrown, fun k hk => ?_⟩
    rw [loopOnce_body (Nat.ne_of_lt hk), hbody.same k (by rw [Array.size_push]; omega),
      (Extends.push p .accept).same k hk]
  begins {next p} h := by
    rw [loopOnce_size]
    exact hf.begins (by simp)
  goesOn {next p k} h hk := by
    rcases Nat.eq_or_lt_of_le hk with rfl | hlt
    · rw [loopOnce_again hf]
      cases greedy <;> simp [choose]
    · rw [loopOnce_body (Nat.ne_of_gt hlt)]
      exact hf.goesOn (by simp) (by rw [Array.size_push]; omega)
  leads := by
    rintro next p q _ hshares s s' ⟨n, htimes⟩
    obtain ⟨hagain, hbody⟩ := loopOnce_shares hf hshares
    induction n generalizing s with
    | zero =>
      obtain ⟨t, hR, rfl⟩ := htimes
      obtain ⟨m, hpath⟩ := hf.leads (by simp) hbody hR
      exact ⟨_, hpath.trans (.single ((step_choose_iff hagain).2 (.inr rfl)))⟩
    | succ n ih =>
      obtain ⟨t, hR, hrest⟩ := htimes
      obtain ⟨m, hpath⟩ := hf.leads (by simp) hbody hR
      obtain ⟨l, hlast⟩ := ih hrest
      exact ⟨_, hpath.trans (.step ((step_choose_iff hagain).2 (.inl rfl)) hlast)⟩
  leaves := by
    intro next p q h hshares n s e hpath hout
    obtain ⟨hagain, hbody⟩ := loopOnce_shares hf hshares
    -- Every round of the loop makes what is left of the path shorter.
    induction n using Nat.strongRecOn generalizing s with
    | ind n ih =>
      rw [loopOnce_size] at hout
      obtain ⟨m, hm, t, hR, hrest⟩ := hf.leaves (by simp) hbody hpath
        (by rw [Array.size_push]; omega)
      have hgrown := (loopOnce_grows (p := p) hf).2
      cases hrest with
      | refl =>
        change p.size < p.size ∨ _ ≤ p.size at hout
        omega
      | @step m _ _ _ hstep hlast =>
        rcases (step_choose_iff hagain).1 hstep with rfl | rfl
        · obtain ⟨l, hl, s', ⟨k, htimes⟩, hlast'⟩ := ih m (by omega) hlast
          exact ⟨l, by omega, s', ⟨k + 1, t, hR, htimes⟩, hlast'⟩
        · exact ⟨m, by omega, t, ⟨0, t, hR, rfl⟩, hlast⟩

end Compilers

/-! ## Programs of patterns -/

variable {text : List Char}

theorem realizes_one {c : CharClass} :
    Realizes text (fun next p => p.add (.one c next))
      fun s s' => Takes text c s.offset ∧ s' = ⟨s.offset + 1, s.slots⟩ :=
  .single (fun _ => Instr.noConfusion) fun h => (step_one_iff h).trans (by grind)

theorem realizes_check {a : Anchor} :
    Realizes text (fun next p => p.add (.check a next))
      fun s s' => HoldsAt text a s.offset ∧ s' = s :=
  .single (fun _ => Instr.noConfusion) fun h => (step_check_iff h).trans (by grind)

theorem realizes_save {slot : Nat} :
    Realizes text (fun next p => p.add (.save slot next)) fun s s' => s' = s.save slot :=
  .single (fun _ => Instr.noConfusion) fun h => (step_save_iff h).trans (by grind)

section Bounds

variable {α : Type} {R : α → α → Prop} {low : Nat} {s s' : α}

theorem times_atMost_iff {high : Nat} :
    (∃ t, Times R low s t ∧ AtMost R (high - low) t s') ↔
      ∃ n, low ≤ n ∧ n ≤ max low high ∧ Times R n s s' := by
  constructor
  · rintro ⟨t, hlow, k, hk, htimes⟩
    exact ⟨low + k, by omega, by omega, times_add_iff.2 ⟨t, hlow, htimes⟩⟩
  · rintro ⟨n, hlow, hhigh, htimes⟩
    obtain ⟨k, rfl⟩ := Nat.exists_eq_add_of_le hlow
    obtain ⟨t, hfirst, hrest⟩ := times_add_iff.1 htimes
    exact ⟨t, hfirst, k, by omega, hrest⟩

theorem times_any_iff :
    ((∃ n, Times R (n + 1) s s') ∨ s' = s) ↔ ∃ n, Times R n s s' := by
  constructor
  · rintro (⟨n, htimes⟩ | rfl)
    · exact ⟨n + 1, htimes⟩
    · exact ⟨0, rfl⟩
  · rintro ⟨n, htimes⟩
    cases n with
    | zero => exact .inr htimes
    | succ n => exact .inl ⟨n, htimes⟩

theorem times_atLeast_iff :
    (∃ t, Times R low s t ∧ ∃ n, Times R (n + 1) t s') ↔ ∃ n, low + 1 ≤ n ∧ Times R n s s' := by
  constructor
  · rintro ⟨t, hlow, n, htimes⟩
    exact ⟨low + (n + 1), by omega, times_add_iff.2 ⟨t, hlow, htimes⟩⟩
  · rintro ⟨n, hlow, htimes⟩
    obtain ⟨k, rfl⟩ := Nat.exists_eq_add_of_le hlow
    rw [Nat.add_assoc, Nat.add_comm 1 k] at htimes
    obtain ⟨t, hfirst, hrest⟩ := times_add_iff.1 htimes
    exact ⟨t, hfirst, k, hrest⟩

end Bounds

/-- The program of a pattern does what the pattern says. -/
theorem compile_realizes (p : Pattern) : Realizes text (compile p) (Matches text p) := by
  induction p with
  | empty => exact .nothing
  | one c => exact realizes_one
  | place a => exact realizes_check
  | group k p ih =>
    refine (realizes_save.seq (ih.seq realizes_save)).congr fun s s' => ?_
    simp [Matches]
  | seq l r ihl ihr => exact ihl.seq ihr
  | alt l r ihl ihr => exact ihl.branch ihr
  | repeated p low high greedy ih =>
    cases high with
    | some high =>
      refine ((ih.copies low).seq (ih.optionalCopies greedy (high - low))).congr fun s s' => ?_
      simp [times_atMost_iff, Matches]
    | none =>
      cases low with
      | zero =>
        refine ((ih.loopOnce greedy).optional greedy).congr fun s s' => ?_
        simp [times_any_iff, Matches]
      | succ low =>
        refine ((ih.copies low).seq (ih.loopOnce greedy)).congr fun s s' => ?_
        simp [times_atLeast_iff, Matches]

/-- A program comes to an instruction that accepts. -/
def Accepted (prog : Program) (text : List Char) (c : Config) (s' : Progress) : Prop :=
  ∃ n pc, Path prog text n c ⟨pc, s'⟩ ∧ prog[pc]? = some .accept

theorem not_step_accept {prog : Program} {pc : Nat} {s : Progress} {e : Config}
    (h : prog[pc]? = some .accept) : ¬ Step prog text ⟨pc, s⟩ e := by
  rintro (⟨h', _⟩ | ⟨h', _⟩ | h' | h' | h') <;> cases h'.symm.trans h

/-- The program of a whole pattern accepts exactly what the pattern matches. -/
theorem accepted_iff {p : Pattern} {s s' : Progress} :
    Accepted (Program.of p).1 text ⟨(Program.of p).2, s⟩ s' ↔ Matches text p s s' := by
  have hp : Realizes text (compile p) (Matches text p) := compile_realizes p
  change Accepted (compile p 0 #[.accept]).1 text ⟨(compile p 0 #[.accept]).2, s⟩ s' ↔ _
  have hsize : 0 < #[Instr.accept].size := Nat.one_pos
  have hbegin : (compile p 0 #[.accept]).1[0]? = some .accept := (hp.grows hsize).same 0 hsize
  constructor
  · rintro ⟨n, pc, hpath, haccept⟩
    obtain rfl : pc = 0 := Nat.eq_zero_of_not_pos fun hpc =>
      hp.goesOn hsize (show #[Instr.accept].size ≤ pc from hpc) haccept
    obtain ⟨m, -, t, hmatches, hrest⟩ :=
      hp.leaves hsize (fun _ _ _ => rfl) hpath (.inl hsize)
    cases hrest with
    | refl => exact hmatches
    | step hstep _ => exact absurd hstep (not_step_accept hbegin)
  · intro hmatches
    obtain ⟨n, hpath⟩ := hp.leads hsize (fun _ _ _ => rfl) hmatches
    exact ⟨n, 0, hpath, hbegin⟩

end ObjectGateway.Pattern
