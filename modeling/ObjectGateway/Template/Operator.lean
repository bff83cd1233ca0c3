import ObjectGateway.Template.Value

/-!
# Operators of templates

Arithmetic is done on integers where both sides are integers and on floating point numbers where
one side is; division always is.  Integers that leave their range are refused.
-/

namespace ObjectGateway.Template

namespace Value

/-- An integer result, if it is in range. -/
def ofInt (i : Int) : Except Fault Value :=
  if -intBound ≤ i ∧ i < intBound then .ok (int i) else .error .invalidOperation

/-- Arithmetic on two values that are numbers. -/
def arithmetic (ints : Int → Int → Except Fault Value) (reals : Float → Float → Float)
    (a b : Value) : Except Fault Value :=
  match coerce? a b with
  | some (.ints i j) => ints i j
  | some (.reals x y) => .ok (real (reals x y))
  | _ => .error .invalidOperation

/-- The number toward zero. -/
def truncate (x : Float) : Float :=
  if x < 0.0 then x.ceil else x.floor

/-- The remainder with the sign of the dividend. -/
def remainder (x y : Float) : Float :=
  x - y * truncate (x / y)

/-- The quotient that leaves a remainder that is not negative. -/
def wholeQuotient (x y : Float) : Float :=
  let q := truncate (x / y)
  if remainder x y < 0.0 then (if y > 0.0 then q - 1.0 else q + 1.0) else q

/-- A sum, or two lists or texts after each other. -/
def add (a b : Value) : Except Fault Value :=
  match a, b with
  | seq xs, seq ys | seq xs, iter ys _ | iter xs _, seq ys | iter xs _, iter ys _ =>
    .ok (iter (xs ++ ys) true)
  | _, _ =>
    match coerce? a b with
    | some (.ints i j) => ofInt (i + j)
    | some (.reals x y) => .ok (real (x + y))
    | some (.texts s t) => .ok (text (s ++ t))
    | Option.none => .error .invalidOperation

/-- A difference. -/
def sub : Value → Value → Except Fault Value :=
  arithmetic (fun i j => ofInt (i - j)) (· - ·)

/-- How often a text or list is repeated. -/
def count? (v : Value) : Option Nat := do
  let i ← v.toInt?
  if 0 ≤ i then some i.toNat else failure

/-- A text or list, a number of times. -/
def repeated (v n : Value) : Except Fault Value :=
  match count? n with
  | some k =>
    match v with
    | str s _ => .ok (text (String.join (List.replicate k s)))
    | seq xs | iter xs _ => .ok (iter (List.replicate k xs).flatten true)
    | _ => .error .invalidOperation
  | Option.none => .error .invalidOperation

/-- A product, or a text or list repeated. -/
def mul (a b : Value) : Except Fault Value :=
  match a, b with
  | str .., _ => repeated a b
  | _, str .. => repeated b a
  | seq _, _ | iter .., _ => repeated a b
  | _, seq _ | _, iter .. => repeated b a
  | _, _ => arithmetic (fun i j => ofInt (i * j)) (· * ·) a b

/-- A quotient, which is never an integer. -/
def div (a b : Value) : Except Fault Value :=
  match a.toReal?, b.toReal? with
  | some x, some y => .ok (real (x / y))
  | _, _ => .error .invalidOperation

/-- A quotient rounded so that the remainder is not negative. -/
def floorDiv : Value → Value → Except Fault Value :=
  arithmetic (fun i j => if j = 0 then .error .invalidOperation else ofInt (i / j)) wholeQuotient

/-- A remainder; among integers it is not negative. -/
def rem : Value → Value → Except Fault Value :=
  arithmetic (fun i j => if j = 0 then .error .invalidOperation else ofInt (i % j)) remainder

/-- A power. -/
def pow : Value → Value → Except Fault Value :=
  arithmetic
    (fun i j =>
      if j < 0 ∨ Int.pow 2 32 ≤ j then .error .invalidOperation
      else if i.natAbs ≤ 1 then ofInt (if i = -1 then (if j % 2 = 0 then 1 else -1)
        else if j = 0 then 1 else i)
      else if 127 < j then .error .invalidOperation
      else ofInt (Int.pow i j.toNat))
    Float.pow

/-- The negative of a number. -/
def neg : Value → Except Fault Value
  | int i => ofInt (-i)
  | real x => .ok (real (-x))
  | _ => .error .invalidOperation

/-- Apply an operator whose two sides are both needed. -/
def binary (op : BinaryOp) (a b : Value) : Except Fault Value :=
  match op with
  | .or => .ok (if a.isTrue then a else b)
  | .and => .ok (if a.isTrue then b else a)
  | .eq => .ok (bool (eqv a b))
  | .ne => .ok (bool (!eqv a b))
  | .lt => .ok (bool (order a b == .lt))
  | .le => .ok (bool (order a b != .gt))
  | .gt => .ok (bool (order a b == .gt))
  | .ge => .ok (bool (order a b != .lt))
  | .mem =>
    match contains? b a with
    | some r => .ok (bool r)
    | Option.none => .error .invalidOperation
  | .add => add a b
  | .sub => sub a b
  | .concat => .ok (text (a.print ++ b.print))
  | .mul => mul a b
  | .div => div a b
  | .floorDiv => floorDiv a b
  | .rem => rem a b
  | .pow => pow a b

/-- A bound of a slice. -/
def bound? : Value → Except Fault (Option Int)
  | none => .ok Option.none
  | v =>
    match v.toInt? with
    | some i => .ok (some i)
    | Option.none => .error .invalidOperation

/-- Every `step`-th item, the first one included. -/
def everyNth {α : Type} (step : Nat) (xs : List α) : List α :=
  (xs.zipIdx.filter fun (_, i) => i % step == 0).map Prod.fst

/-- The items from `start` up to `stop`; negative positions count from the end. -/
def sliceForward {α : Type} (start stop : Option Int) (step : Nat) (xs : List α) : List α :=
  let n : Int := xs.length
  let place (i : Int) : Nat := if i < 0 then (n + i).toNat else i.toNat
  let first := place (start.getD 0)
  let last := place (stop.getD n)
  everyNth step ((xs.drop first).take (last - first))

/-- The items from `start` down to after `stop`. -/
def sliceBackward {α : Type} (start stop : Option Int) (step : Nat) (xs : List α) : List α :=
  let n : Int := xs.length
  let place (i : Int) : Int := if i < 0 then n + i else i
  let first := min (place (start.getD (n - 1))) (n - 1)
  let last : Int :=
    match stop with
    | some i => max (place i) (-1)
    | Option.none => -1
  let taken := (xs.take (first + 1).toNat).drop (last + 1).toNat
  everyNth step taken.reverse

/-- A slice of a text or list. -/
def slice (v start stop step : Value) : Except Fault Value := do
  let start ← bound? start
  let stop ← bound? stop
  let step := (← bound? step).getD 1
  if step = 0 then .error .invalidOperation
  else
    let cut {α : Type} (xs : List α) : List α :=
      if 0 < step then sliceForward start stop step.toNat xs
      else sliceBackward start stop (-step).toNat xs
    match v with
    | str s _ => .ok (text (String.ofList (cut s.toList)))
    | undefined | none => .ok (seq [])
    | seq xs | iter xs _ => .ok (iter (cut xs) true)
    | _ => .error .invalidOperation

end Value

/-- A character as it stands in markup. -/
def escapeChar : Char → List Char
  | '<' => ['&', 'l', 't', ';']
  | '>' => ['&', 'g', 't', ';']
  | '&' => ['&', 'a', 'm', 'p', ';']
  | '"' => ['&', 'q', 'u', 'o', 't', ';']
  | '\'' => ['&', '#', 'x', '2', '7', ';']
  | '/' => ['&', '#', 'x', '2', 'f', ';']
  | c => [c]

/-- A text as it stands in markup. -/
def escapeText (s : String) : String :=
  String.ofList (s.toList.flatMap escapeChar)

/-- The text of a value as it stands in markup, unless it is safe already. -/
def Value.markup : Value → String
  | .str s safe => if safe then s else escapeText s
  | .undefined => ""
  | .none => Value.print .none
  | .bool b => Value.print (.bool b)
  | .int i => Value.print (.int i)
  | .real x => Value.print (.real x)
  | v => escapeText v.print

end ObjectGateway.Template
