/-!
# Flows

A flow is a program that asks its surroundings for something, goes on with the reply, and in the end
yields a value.  What the surroundings do is not part of a flow, so a statement about a flow holds
for every store, every receiver of events and every way of answering.
-/

namespace ObjectGateway

/-- What a flow can ask for, and what it gets back for each. -/
structure Interface where
  Op : Type
  Reply : Op → Type

/-- A program over an interface. -/
inductive Flow (I : Interface) (α : Type) : Type
  /-- The value that the flow yields. -/
  | done (a : α)
  /-- Ask for something, and go on with the reply. -/
  | call (op : I.Op) (next : I.Reply op → Flow I α)

namespace Flow

variable {I J : Interface} {α β : Type}

/-- Go on with the value of a flow. -/
def bind (x : Flow I α) (f : α → Flow I β) : Flow I β :=
  match x with
  | done a => f a
  | call op next => call op fun r => (next r).bind f

instance : Monad (Flow I) where
  pure := done
  bind := bind

/-- Ask for one thing. -/
def ask (op : I.Op) : Flow I (I.Reply op) :=
  call op done

/-- Let a handler reply to whatever a flow asks for. -/
def run {m : Type → Type} [Monad m] (handle : (op : I.Op) → m (I.Reply op)) : Flow I α → m α
  | done a => pure a
  | call op next => do
    let r ← handle op
    (next r).run handle

/-- Replace whatever a flow asks for by a flow over another interface. -/
def translate (f : (op : I.Op) → Flow J (I.Reply op)) : Flow I α → Flow J α
  | done a => done a
  | call op next => (f op).bind fun r => (next r).translate f

@[simp] theorem done_bind (a : α) (f : α → Flow I β) : (done a).bind f = f a := rfl

@[simp] theorem call_bind (op : I.Op) (next : I.Reply op → Flow I α) (f : α → Flow I β) :
    (call op next).bind f = call op fun r => (next r).bind f := rfl

theorem bind_done (x : Flow I α) : x.bind done = x := by
  induction x with
  | done a => rfl
  | call op next ih => simp only [call_bind]; congr 1; funext r; exact ih r

theorem bind_assoc {γ : Type} (x : Flow I α) (f : α → Flow I β) (g : β → Flow I γ) :
    (x.bind f).bind g = x.bind fun a => (f a).bind g := by
  induction x with
  | done a => rfl
  | call op next ih => simp only [call_bind]; congr 1; funext r; exact ih r

instance : LawfulMonad (Flow I) :=
  LawfulMonad.mk' (Flow I) (fun x => bind_done x) (fun _ _ => rfl) fun x f g => bind_assoc x f g

end Flow

end ObjectGateway
