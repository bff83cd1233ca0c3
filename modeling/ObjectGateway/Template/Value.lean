import ObjectGateway.Json
import ObjectGateway.Template.Reader
import ObjectGateway.Text.Quoted

/-!
# Template values

The values that a template computes with.  An undefined value stands for a name that nothing was
given for; it prints as nothing.  Maps list their entries in the order of their keys.
-/

namespace ObjectGateway.Template

/-- A function that templates can call. -/
inductive Builtin
  | range
  | dict
  | debug
  | newNamespace
  deriving Repr, DecidableEq

/-- A value. -/
inductive Value
  | undefined
  | none
  | bool (b : Bool)
  | int (i : Int)
  | real (x : Float)
  /-- A text; markup that is safe is never escaped. -/
  | str (s : String) (safe : Bool)
  | seq (items : List Value)
  /-- Items that are produced one by one; `sized` when their number is known beforehand. -/
  | iter (items : List Value) (sized : Bool)
  /-- The items that share a key; a pair of the key and the items. -/
  | group (key : Value) (items : List Value)
  | map (entries : List (Value × Value))
  /-- Named arguments on their way into a call. -/
  | named (entries : List (Value × Value))
  | builtin (f : Builtin)
  /-- A definition with the record of names that it sees. -/
  | defined (d : Definition) (scope : Nat)
  /-- The map with the given number whose entries can be assigned. -/
  | store (id : Nat)
  /-- The state of a loop. -/
  | loop (items : List Value) (position depth : Nat) (recursion : Option Stmt)

namespace Value

instance : Inhabited Value := ⟨undefined⟩

/-- A plain text. -/
def text (s : String) : Value := str s false

/-- The kinds of values, in the order in which values of different kinds compare. -/
inductive Kind
  | undefined
  | none
  | bool
  | number
  | string
  | seq
  | map
  | iterable
  | plain
  deriving Repr, DecidableEq

/-- The kind of a value. -/
def kind : Value → Kind
  | undefined => .undefined
  | none => .none
  | bool _ => .bool
  | int _ | real _ => .number
  | str .. => .string
  | seq _ | group .. => .seq
  | iter .. => .iterable
  | map _ | named _ | store _ | loop .. => .map
  | builtin _ | defined .. => .plain

/-- The place of a kind in the order of kinds. -/
def Kind.rank : Kind → Nat
  | .undefined => 0
  | .none => 1
  | .bool => 2
  | .number => 3
  | .string => 4
  | .seq => 6
  | .map => 7
  | .iterable => 8
  | .plain => 9

/-- The text of a finite or infinite number; whole numbers keep a point. -/
def realText (x : Float) : String :=
  if x.isNaN then "NaN"
  else if x.isInf then (if x < 0 then "-inf" else "inf")
  else
    let s := Decimal.shortest x
    if s.toList.contains '.' then s else s ++ ".0"

mutual

/-- A value inside of another one. -/
def inner : Value → String
  | undefined => "undefined"
  | none => "None"
  | bool b => if b then "True" else "False"
  | int i => toString i
  | real x => realText x
  | str s _ => Text.Quoted.quote s
  | seq items | iter items _ => "[" ++ innerItems items ++ "]"
  | group key items => "[" ++ inner key ++ ", [" ++ innerItems items ++ "]]"
  | map entries | named entries => "\x7b" ++ innerEntries entries ++ "\x7d"
  | builtin _ => "<function>"
  | defined d _ => "<macro " ++ d.name ++ ">"
  | store _ => "\x7b\x7d"
  | loop items position _ _ => "<loop " ++ toString position ++ "/" ++ toString items.length ++ ">"

/-- The items of a list. -/
def innerItems : List Value → String
  | [] => ""
  | [v] => inner v
  | v :: rest => inner v ++ ", " ++ innerItems rest

/-- The entries of a map. -/
def innerEntries : List (Value × Value) → String
  | [] => ""
  | [(k, v)] => inner k ++ ": " ++ inner v
  | (k, v) :: rest => inner k ++ ": " ++ inner v ++ ", " ++ innerEntries rest

end

/-- The text that a value prints. -/
def print : Value → String
  | undefined => ""
  | str s _ => s
  | v => inner v

/-- Whether a value counts as true. -/
def isTrue : Value → Bool
  | undefined | none => false
  | bool b => b
  | int i => i != 0
  | real x => x != 0.0
  | str s _ => !s.isEmpty
  | seq items => !items.isEmpty
  | iter items sized => !sized || !items.isEmpty
  | map entries | named entries => !entries.isEmpty
  | group .. | builtin _ | defined .. | store _ | loop .. => true

/-- Integers are computed with below this bound. -/
def intBound : Int := Int.pow 2 127

/-- The integer that a value stands for in arithmetic. -/
def toInt? : Value → Option Int
  | bool b => some (if b then 1 else 0)
  | int i => if i < intBound then some i else Option.none
  | real x =>
    let i : Int := x.toInt64.toInt
    if x == Float.ofInt i then some i else Option.none
  | _ => Option.none

/-- The floating point number that a value stands for in arithmetic. -/
def toReal? : Value → Option Float
  | bool b => some (if b then 1.0 else 0.0)
  | int i => some (Float.ofInt i)
  | real x => some x
  | _ => Option.none

/-- Two values brought to a common form. -/
inductive Pair
  | ints (a b : Int)
  | reals (a b : Float)
  | texts (a b : String)

/-- Bring two values to a common form. -/
def coerce? (a b : Value) : Option Pair :=
  match a, b with
  | str s _, str t _ => some (.texts s t)
  | real x, _ => b.toReal?.map (.reals x ·)
  | _, real y => a.toReal?.map (.reals · y)
  | _, _ =>
    match a.toInt?, b.toInt? with
    | some i, some j => some (.ints i j)
    | _, _ => Option.none

mutual

/-- Equality of values. -/
def eqv : Value → Value → Bool
  | undefined, undefined => true
  | none, none => true
  | seq xs, ys | iter xs _, ys =>
    match ys with
    | seq ys | iter ys _ => eqvItems xs ys
    | _ => false
  | map xs, ys | named xs, ys =>
    match ys with
    | map ys | named ys => xs.length == ys.length && eqvEntries xs ys
    | _ => false
  | store a, store b => a == b
  | a, b =>
    match coerce? a b with
    | some (.ints i j) => i == j
    | some (.reals x y) => x == y
    | some (.texts s t) => s == t
    | Option.none => false

/-- Equality of lists of values. -/
def eqvItems : List Value → List Value → Bool
  | [], [] => true
  | x :: xs, y :: ys => eqv x y && eqvItems xs ys
  | _, _ => false

/-- Equality of entries in the order of their keys. -/
def eqvEntries : List (Value × Value) → List (Value × Value) → Bool
  | [], [] => true
  | (k, v) :: xs, (l, w) :: ys => eqv k l && eqv v w && eqvEntries xs ys
  | _, _ => false

end

/-- The order of two floating point numbers. -/
def compareReals (a b : Float) : Ordering :=
  if a < b then .lt else if b < a then .gt else .eq

/-- The order of two texts by code points. -/
def compareTexts (a b : String) : Ordering :=
  compare a b

mutual

/-- The order of values. -/
def order : Value → Value → Ordering
  | a, b =>
    match coerce? a b with
    | some (.ints i j) => compare i j
    | some (.reals x y) => compareReals x y
    | some (.texts s t) => compareTexts s t
    | Option.none =>
      match compare a.kind.rank b.kind.rank with
      | .eq =>
        match a, b with
        | seq xs, seq ys => orderItems xs ys
        | iter xs _, iter ys _ => orderItems xs ys
        | map xs, map ys => orderEntries xs ys
        | _, _ => .eq
      | o => o

/-- The order of lists of values. -/
def orderItems : List Value → List Value → Ordering
  | [], [] => .eq
  | [], _ => .lt
  | _, [] => .gt
  | x :: xs, y :: ys =>
    match order x y with
    | .eq => orderItems xs ys
    | o => o

/-- The order of entries. -/
def orderEntries : List (Value × Value) → List (Value × Value) → Ordering
  | [], [] => .eq
  | [], _ => .lt
  | _, [] => .gt
  | (k, v) :: xs, (l, w) :: ys =>
    match order k l with
    | .eq =>
      match order v w with
      | .eq => orderEntries xs ys
      | o => o
    | o => o

end

/-- Put an entry into a map that is sorted by its keys; an equal key is replaced. -/
def insertEntry (k v : Value) : List (Value × Value) → List (Value × Value)
  | [] => [(k, v)]
  | (l, w) :: rest =>
    match order k l with
    | .lt => (k, v) :: (l, w) :: rest
    | .eq => (k, v) :: rest
    | .gt => (l, w) :: insertEntry k v rest

/-- The map of entries, of which the last one with a key counts. -/
def ofEntries (entries : List (Value × Value)) : List (Value × Value) :=
  entries.foldl (fun m (k, v) => insertEntry k v m) []

/-- The entry under a key. -/
def lookupEntry (k : Value) : List (Value × Value) → Option Value
  | [] => Option.none
  | (l, v) :: rest => if eqv k l then some v else lookupEntry k rest

mutual

/-- The value of a JSON value. -/
def ofJson : Json → Value
  | .null => none
  | .bool b => bool b
  | .int i => int i
  | .real x => real x
  | .str s => text s
  | .arr items => seq (ofJsonItems items)
  | .obj members => map (ofEntries (ofJsonMembers members))

/-- The values of the items of an array. -/
def ofJsonItems : List Json → List Value
  | [] => []
  | j :: rest => ofJson j :: ofJsonItems rest

/-- The entries of the members of an object. -/
def ofJsonMembers : List (String × Json) → List (Value × Value)
  | [] => []
  | (k, j) :: rest => (text k, ofJson j) :: ofJsonMembers rest

end

/-- The texts of single characters. -/
def chars (s : String) : List Value :=
  s.toList.map fun c => text (String.singleton c)

/-- The members of a loop's state. -/
def loopMember? (items : List Value) (position depth : Nat) : String → Option Value
  | "index" => some (int (position + 1))
  | "index0" => some (int position)
  | "revindex" => some (int (items.length - position))
  | "revindex0" => some (int (items.length - position - 1))
  | "length" => some (int items.length)
  | "first" => some (bool (position == 0))
  | "last" => some (bool (position + 1 == items.length))
  | "depth" => some (int (depth + 1))
  | "depth0" => some (int depth)
  | "previtem" =>
    some (if position == 0 then undefined else (items[position - 1]?).getD undefined)
  | "nextitem" => some ((items[position + 1]?).getD undefined)
  | _ => Option.none

/-- The members of a group. -/
def groupMember? (key : Value) (items : List Value) : String → Option Value
  | "grouper" => some key
  | "list" => some (seq items)
  | _ => Option.none

/-- The items that a loop over a value visits. -/
def items? : Value → Option (List Value)
  | undefined | none => some []
  | str s _ => some (chars s)
  | seq xs | iter xs _ => some xs
  | group key xs => some [key, seq xs]
  | map es | named es => some (es.map Prod.fst)
  | _ => Option.none

/-- The number of items of a value, if it has one. -/
def length? : Value → Option Nat
  | str s _ => some s.length
  | seq xs => some xs.length
  | iter xs sized => if sized then some xs.length else Option.none
  | group .. => some 2
  | map es | named es => some es.length
  | _ => Option.none

/-- The position that an index stands for; negative ones count from the end. -/
def position? (i : Int) (length : Nat) : Option Nat :=
  if 0 ≤ i then some i.toNat
  else if 0 ≤ (length : Int) + i then some ((length : Int) + i).toNat
  else Option.none

/-- The value under a subscript. -/
def item? (v k : Value) : Option Value :=
  match v with
  | seq xs => do xs[← position? (← k.toInt?) xs.length]?
  | iter xs sized => do
    let i ← k.toInt?
    if i < 0 && !sized then Option.none else xs[← position? i xs.length]?
  | str s _ => do
    let cs := s.toList
    return text (String.singleton (← cs[← position? (← k.toInt?) cs.length]?))
  | group key xs =>
    match k with
    | str s _ => groupMember? key xs s
    | _ => do [key, seq xs][← position? (← k.toInt?) 2]?
  | map es | named es => lookupEntry k es
  | loop items position depth _ =>
    match k with
    | str s _ => loopMember? items position depth s
    | _ => Option.none
  | _ => Option.none

/-- The value of an attribute. -/
def attr? (v : Value) (name : String) : Option Value :=
  match v with
  | map es | named es => lookupEntry (text name) es
  | group key xs => groupMember? key xs name
  | loop items position depth _ => loopMember? items position depth name
  | _ => Option.none

/-- Whether a text occurs in another one. -/
def occursIn (pat : List Char) : List Char → Bool
  | [] => pat.isEmpty
  | c :: cs => pat.isPrefixOf (c :: cs) || occursIn pat cs

/-- Whether a value holds another one. -/
def contains? (container v : Value) : Option Bool :=
  match container with
  | undefined => some false
  | str s _ => some (occursIn v.print.toList s.toList)
  | seq xs | iter xs _ => some (xs.any (eqv · v))
  | group key xs => some ([key, seq xs].any (eqv · v))
  | map es | named es => some (lookupEntry v es).isSome
  | loop .. => some (container.item? v).isSome
  | builtin _ | defined .. | store _ => some false
  | _ => Option.none

end Value

end ObjectGateway.Template
