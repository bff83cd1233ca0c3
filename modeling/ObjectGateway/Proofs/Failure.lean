import Mathlib.Data.List.Forall2
import ObjectGateway.Failure

/-!
# Which computations fail, and how

`Fails` says that a computation fails, `FailsOnly` restricts the failures that it can have, and
`Yields` says what holds of its value if it has one.  All of them are carried through the sequence of
two computations, so that a function of several steps is settled by its steps: `fails_bind_iff` where
it does not matter to later steps what earlier ones yield, `FailsOnly.bind` and `Yields.bind`.
`failure?` is how a computation fails; of a sequence it is the failure of the first step that has one
(`failure?_bind`).
-/

namespace ObjectGateway

variable {α β : Type}

/-- A computation fails. -/
def Fails (x : Answer α) : Prop := ∃ f, x = .error f

/-- Every failure of a computation has a property. -/
def FailsOnly (P : Failure → Prop) (x : Answer α) : Prop := ∀ f, x = .error f → P f

/-- The value of a computation, if there is one, has a property. -/
def Yields (P : α → Prop) (x : Answer α) : Prop := ∀ a, x = .ok a → P a

@[simp] theorem fails_error (f : Failure) : Fails (.error f : Answer α) := ⟨f, rfl⟩

@[simp] theorem not_fails_ok (a : α) : ¬Fails (.ok a : Answer α) := by
  rintro ⟨f, hf⟩
  cases hf

@[simp] theorem not_fails_pure (a : α) : ¬Fails (pure a : Answer α) := not_fails_ok a

theorem fails_iff_not_isOk {x : Answer α} : Fails x ↔ ¬∃ a, x = .ok a := by
  cases x with
  | error f => simp
  | ok a => simp

@[simp] theorem fails_map_iff {x : Answer α} {f : α → β} : Fails (x.map f) ↔ Fails x := by
  cases x with
  | error f => simp [Except.map]
  | ok a => simp [Except.map]

/-- A sequence fails as one of its parts does, where it does not matter to the second part what the
first one yields. -/
theorem fails_bind_iff {x : Answer α} {f : α → Answer β} {Q : Prop} (hf : ∀ a, Fails (f a) ↔ Q) :
    Fails (x >>= f) ↔ Fails x ∨ Q := by
  cases x with
  | error e =>
    have h : Fails (Except.error e >>= f) := fails_error e
    simp [h]
  | ok a =>
    show Fails (f a) ↔ _
    rw [hf a]
    simp

theorem fails_bind_pure_iff {x : Answer α} {f : α → β} :
    Fails (x >>= fun a => pure (f a)) ↔ Fails x := by
  rw [fails_bind_iff fun a => iff_false_intro (not_fails_pure (f a)), or_false]

/-- How a computation fails, if it does. -/
def failure? : Answer α → Option Failure
  | .ok _ => none
  | .error f => some f

theorem failure?_eq_some_iff {x : Answer α} {f : Failure} : failure? x = some f ↔ x = .error f := by
  cases x <;> simp [failure?]

theorem failure?_eq_none_iff {x : Answer α} : failure? x = none ↔ ∃ a, x = .ok a := by
  cases x <;> simp [failure?]

@[simp] theorem failure?_map {x : Answer α} {f : α → β} : failure? (x.map f) = failure? x := by
  cases x <;> rfl

/-- A sequence fails as its first part does that fails, where it does not matter to the second part
what the first one yields. -/
theorem failure?_bind {x : Answer α} {f : α → Answer β} {q : Option Failure}
    (hf : ∀ a, failure? (f a) = q) : failure? (x >>= f) = (failure? x).or q := by
  cases x with
  | error e => rfl
  | ok a => exact hf a

theorem failure?_bind_pure {x : Answer α} {f : α → β} :
    failure? (x >>= fun a => pure (f a)) = failure? x := by
  cases x <;> rfl

/-- How the first of some computations fails that does. -/
def firstFailure? (xs : List (Answer α)) : Option Failure := xs.findSome? failure?

@[simp] theorem firstFailure?_append (xs ys : List (Answer α)) :
    firstFailure? (xs ++ ys) = (firstFailure? xs).or (firstFailure? ys) := List.findSome?_append

theorem failsOnly_ok {P : Failure → Prop} (a : α) : FailsOnly P (.ok a : Answer α) := by
  rintro f ⟨⟩

theorem failsOnly_error {P : Failure → Prop} {f : Failure} (hf : P f) :
    FailsOnly P (.error f : Answer α) := by
  rintro _ ⟨⟩
  exact hf

theorem FailsOnly.map {P : Failure → Prop} {x : Answer α} (hx : FailsOnly P x) (f : α → β) :
    FailsOnly P (x.map f) := by
  cases x with
  | error e => exact failsOnly_error (hx e rfl)
  | ok a => exact failsOnly_ok _

theorem FailsOnly.bind {P : Failure → Prop} {x : Answer α} {f : α → Answer β}
    (hx : FailsOnly P x) (hf : ∀ a, FailsOnly P (f a)) : FailsOnly P (x >>= f) := by
  cases x with
  | error e => exact failsOnly_error (hx e rfl)
  | ok a => exact hf a

/-- Checks one after the other fail as one of them does. -/
theorem FailsOnly.forM {P : Failure → Prop} {f : α → Answer PUnit} {as : List α}
    (h : ∀ a ∈ as, FailsOnly P (f a)) : FailsOnly P (as.forM f) := by
  induction as with
  | nil => exact failsOnly_ok _
  | cons a as ih =>
    exact FailsOnly.bind (h a List.mem_cons_self) fun _ =>
      ih fun b hb => h b (List.mem_cons_of_mem a hb)

theorem yields_ok {P : α → Prop} {a : α} (ha : P a) : Yields P (.ok a : Answer α) := by
  rintro _ ⟨⟩
  exact ha

theorem yields_error {P : α → Prop} (f : Failure) : Yields P (.error f : Answer α) := by
  rintro a ⟨⟩

theorem Yields.bind {P : β → Prop} {x : Answer α} {f : α → Answer β}
    (hf : ∀ a, x = .ok a → Yields P (f a)) : Yields P (x >>= f) := by
  cases x with
  | error e => exact yields_error e
  | ok a => exact hf a rfl

theorem toOption_eq_some_iff {ε : Type} {x : Except ε α} {a : α} :
    x.toOption = some a ↔ x = .ok a := by
  cases x <;> simp [Except.toOption]

theorem bind_eq_ok_iff {ε : Type} {x : Except ε α} {f : α → Except ε β} {b : β} :
    (x >>= f) = .ok b ↔ ∃ a, x = .ok a ∧ f a = .ok b := by
  cases x with
  | error e =>
    constructor
    · intro h
      cases h
    · rintro ⟨a, ⟨⟩, -⟩
  | ok a =>
    constructor
    · intro h
      exact ⟨a, rfl, h⟩
    · rintro ⟨_, ⟨⟩, h⟩
      exact h

/-- A check in front of a computation. -/
theorem check_bind_eq_ok_iff {x : Answer Unit} {f : Unit → Answer β} {b : β} :
    (x >>= f) = .ok b ↔ x = .ok () ∧ f () = .ok b := by
  rw [bind_eq_ok_iff]
  exact ⟨fun ⟨_, hx, hf⟩ => ⟨hx, hf⟩, fun ⟨hx, hf⟩ => ⟨(), hx, hf⟩⟩

theorem map_eq_ok_iff {x : Answer α} {u : Unit} :
    (x.map fun _ => ()) = .ok u ↔ ∃ a, x = .ok a := by
  cases x with
  | error f => simp [Except.map]
  | ok a => simp [Except.map]

/-- A list of computations yields a list of values if each of them yields its value. -/
theorem mapM_eq_ok_iff {f : α → Answer β} {as : List α} {bs : List β} :
    as.mapM f = .ok bs ↔ List.Forall₂ (fun a b => f a = .ok b) as bs := by
  induction as generalizing bs with
  | nil =>
    rw [List.mapM_nil, List.forall₂_nil_left_iff]
    constructor
    · rintro ⟨⟩
      rfl
    · rintro rfl
      rfl
  | cons a as ih =>
    rw [List.mapM_cons, bind_eq_ok_iff]
    simp only [bind_eq_ok_iff, ih]
    constructor
    · rintro ⟨b, hb, rest, hrest, ⟨⟩⟩
      exact .cons hb hrest
    · intro h
      cases h with
      | cons hb hrest => exact ⟨_, hb, _, hrest, rfl⟩

theorem mapM_isOk_iff {f : α → Answer β} {as : List α} :
    (∃ bs, as.mapM f = .ok bs) ↔ ∀ a ∈ as, ∃ b, f a = .ok b := by
  simp only [mapM_eq_ok_iff]
  induction as with
  | nil => simp
  | cons a as ih => simp [List.forall₂_cons_left_iff, ih]

/-- Checks one after the other pass if each of them does. -/
theorem forM_eq_ok_iff {f : α → Answer PUnit} {as : List α} :
    as.forM f = .ok () ↔ ∀ a ∈ as, f a = .ok () := by
  induction as with
  | nil => exact iff_of_true rfl (by simp)
  | cons a as ih =>
    rw [List.forM_eq_forM, List.forM_cons, bind_eq_ok_iff, List.forall_mem_cons]
    rw [List.forM_eq_forM] at ih
    rw [ih]
    exact ⟨fun ⟨_, ha, has⟩ => ⟨ha, has⟩, fun ⟨ha, has⟩ => ⟨(), ha, has⟩⟩

end ObjectGateway
