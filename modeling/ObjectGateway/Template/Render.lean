import ObjectGateway.Template.Filter

/-!
# Rendering templates

Statements are carried out on a machine that holds the visible names and the text rendered so far.
Expressions and statements recurse on their trees.  Only calls of definitions and of nested loops
go back to a tree that was seen before; they are handed in as a `Caller`, of which there is one for
every depth of calls, so that endless recursion is refused.
-/

namespace ObjectGateway.Template

/-- Where a running loop stands. -/
structure LoopState where
  items : List Value
  position : Nat
  depth : Nat
  /-- The loop itself, if its body may call it again. -/
  recursion : Option Stmt
  /-- The values that were last watched for a change. -/
  watched : Option (List Value)

/-- Names that are visible together. -/
structure Frame where
  names : List (String × Value)
  /-- The loop that the name `loop` stands for. -/
  loop : Option LoopState
  /-- The record that definitions of this frame share. -/
  record : Option Nat
  /-- The record that lies under this frame. -/
  base : Option Nat

/-- A frame without names. -/
def Frame.empty : Frame := ⟨[], none, none, none⟩

/-- The state of a rendering. -/
structure Machine where
  /-- The frames, innermost first. -/
  frames : List Frame
  /-- The names that definitions see. -/
  records : List (List (String × Value))
  /-- The maps whose entries can be assigned. -/
  stores : List (List (Value × Value))
  /-- The rendered pieces, last first. -/
  output : List String
  /-- Whether values are escaped when they are printed. -/
  escaping : Bool

/-- What a rendering starts from. -/
structure Setting where
  /-- The values of the names that every part of the template sees. -/
  context : Value
  /-- Whether values are escaped at the start. -/
  escaping : Bool
  /-- The blocks of the template, by their names. -/
  blocks : List (String × List Stmt)

/-- A step of a rendering. -/
abbrev Exec (α : Type) := StateT Machine (Except Fault) α

/-- The calls that go back to a tree that was seen before. -/
structure Caller where
  /-- Call a definition that sees a record. -/
  invoke : Definition → Nat → List Value → Exec Value
  /-- Run a loop again over a value. -/
  again : Stmt → Value → Exec Value
  /-- Render the statements of a block. -/
  block : List Stmt → Exec Value

namespace Exec

/-- The functions that every template sees. -/
def builtin? : String → Option Builtin
  | "range" => some .range
  | "dict" => some .dict
  | "debug" => some .debug
  | "namespace" => some .newNamespace
  | _ => none

/-- The state of a loop as a value. -/
def LoopState.value (l : LoopState) : Value :=
  .loop l.items l.position l.depth l.recursion

/-- The value of a name in a frame. -/
def frameLookup (records : List (List (String × Value))) (name : String) (f : Frame) :
    Option Value :=
  match f.names.lookup name with
  | some v => some v
  | none =>
    match f.loop, name == "loop" with
    | some l, true => some (LoopState.value l)
    | _, _ => f.base.bind fun id => ((records[id]?).getD []).lookup name

/-- The value of a name. -/
def lookup (s : Setting) (name : String) : Exec (Option Value) := do
  let m ← get
  match m.frames.findSome? (frameLookup m.records name) with
  | some v => return some v
  | none =>
    match s.context.attr? name with
    | some v => return some v
    | none => return (builtin? name).map .builtin

/-- Fail. -/
def fail {α : Type} (f : Fault) : Exec α := fun _ => .error f

/-- Take over the result of a function. -/
def lift {α : Type} (r : Except Fault α) : Exec α := fun m => r.map fun x => (x, m)

/-- Add text to what is rendered. -/
def write (text : String) : Exec Unit := modify fun m => { m with output := text :: m.output }

/-- Print a value. -/
def emit (v : Value) : Exec Unit := do
  write (if (← get).escaping then v.markup else v.print)

/-- Do something in a new frame. -/
def within {α : Type} (f : Frame) (act : Exec α) : Exec α := do
  modify fun m => { m with frames := f :: m.frames }
  let r ← act
  modify fun m => { m with frames := m.frames.drop 1 }
  return r

/-- Collect what is rendered as a value. -/
def capture (act : Exec Unit) : Exec Value := do
  let before := (← get).output
  modify fun m => { m with output := [] }
  act
  let m ← get
  let text := String.join m.output.reverse
  set { m with output := before }
  return .str text m.escaping

/-- Change the innermost frame. -/
def modifyFrame (f : Frame → Frame) : Exec Unit :=
  modify fun m =>
    match m.frames with
    | [] => m
    | top :: rest => { m with frames := f top :: rest }

/-- Give a name a value in the innermost frame and in the record of its definitions. -/
def store (name : String) (v : Value) : Exec Unit := do
  modifyFrame fun f => { f with names := (name, v) :: f.names.filter (·.1 != name) }
  let m ← get
  match (m.frames.head?).bind (·.record) with
  | some id =>
    set { m with records := m.records.modify id ((name, v) :: ·) }
  | none => return ()

/-- The names that are visible in a frame. -/
def visibleNames (records : List (List (String × Value))) (f : Frame) : List (String × Value) :=
  f.names ++ (f.loop.map fun l => ("loop", LoopState.value l)).toList ++
    (f.base.map fun id => (records[id]?).getD []).getD []

/-- The record of the innermost frame, completed by the names that are visible now. -/
def closeOver : Exec Nat := do
  let m ← get
  let visible := m.frames.flatMap (visibleNames m.records)
  match (m.frames.head?).bind (·.record) with
  | some id =>
    set { m with records := m.records.modify id (· ++ visible) }
    return id
  | none =>
    let id := m.records.length
    set { m with records := m.records ++ [visible] }
    modifyFrame fun f => { f with record := some id }
    return id

/-- The attribute of a value; assignable maps are looked up on the machine. -/
def member (v : Value) (name : String) : Exec (Option Value) := do
  match v with
  | .store id => return Value.lookupEntry (.text name) (((← get).stores[id]?).getD [])
  | v => return v.attr? name

/-- The value under a subscript. -/
def subscript (v k : Value) : Exec (Option Value) := do
  match v with
  | .store id => return Value.lookupEntry k (((← get).stores[id]?).getD [])
  | v => return v.item? k

/-- A missing attribute is undefined, but nothing undefined has attributes. -/
def orUndefined (base : Value) : Option Value → Exec Value
  | some v => return v
  | none => if base.kind == .undefined then fail .undefinedValue else return .undefined

/-- The numbers of a range. -/
def range (args : List Value) : Except Fault Value := do
  Arguments.between 1 3 args
  let number := Arguments.integer 0 (Int.pow 2 32 - 1)
  let low ← number (args.getD 0 .undefined)
  let high ← Arguments.optional number args[1]?
  let step := (← Arguments.optional number args[2]?).getD 1
  let (first, last) := match high with
    | some h => (low, h)
    | none => (0, low)
  if step = 0 then .error .invalidOperation
  else
    let count := ((last - first + step - 1) / step).toNat
    if 100000 < count then .error .invalidOperation
    else return .iter ((List.range count).map fun (i : Nat) => .int (first + i * step)) true

/-- Call one of the functions that every template sees. -/
def callBuiltin (f : Builtin) (args : List Value) : Exec Value := do
  match f with
  | .range => lift (range args)
  | .dict =>
    let (pos, named) := Arguments.split args
    match pos with
    | [] => return .map named
    | [.map es] => return .map (Value.ofEntries (es ++ named))
    | [.undefined] => return .map named
    | [_] => fail .invalidOperation
    | _ => fail .tooManyArguments
  | .debug => return .text ""
  | .newNamespace =>
    let (pos, named) := Arguments.split args
    let entries ←
      match pos with
      | [] => pure named
      | [.map es] => pure (Value.ofEntries (es ++ named))
      | [.undefined] => pure named
      | [_] => fail .invalidOperation
      | _ => fail .tooManyArguments
    let m ← get
    set { m with stores := m.stores ++ [entries] }
    return .store m.stores.length

/-- Call a value. -/
def callValue (c : Caller) (f : Value) (args : List Value) : Exec Value :=
  match f with
  | .builtin b => callBuiltin b args
  | .defined d scope => c.invoke d scope args
  | .loop _ _ _ (some s) =>
    match args with
    | [v] => c.again s v
    | _ => fail .invalidOperation
  | _ => fail .invalidOperation

/-- Run the innermost loop again. -/
def callLoop (c : Caller) (args : List Value) : Exec Value := do
  match ((← get).frames.findSome? (·.loop)).bind (·.recursion), args with
  | some s, [v] => c.again s v
  | _, _ => fail .invalidOperation

/-- Call a name.  The loop is called by its own name, and no template lies above this one. -/
def callName (s : Setting) (c : Caller) (name : String) (args : List Value) : Exec Value := do
  if name == "super" then fail .invalidOperation
  else if name == "loop" then callLoop c args
  else
    match ← lookup s name with
    | some f => callValue c f args
    | none => fail .unknownFunction

/-- Render a block by its name. -/
def callBlock (s : Setting) (c : Caller) (name : String) : Exec Value :=
  match s.blocks.lookup name with
  | some body => c.block body
  | none => fail .unknownBlock

/-- Replace the values that the innermost loop watches. -/
def watch (vs : List Value) : List Frame → List Frame
  | [] => []
  | f :: rest =>
    match f.loop with
    | some l => { f with loop := some { l with watched := some vs } } :: rest
    | none => f :: watch vs rest

/-- Whether values differ from those that the innermost loop watched last. -/
def changed (vs : List Value) : Exec Bool := do
  let m ← get
  let before := (m.frames.findSome? (·.loop)).bind (·.watched)
  let same := before.elim false fun ws => Value.eqv (.seq ws) (.seq vs)
  set { m with frames := watch vs m.frames }
  return !same

/-- Call a method of a value. -/
def callMethod (c : Caller) (v : Value) (name : String) (args : List Value) : Exec Value := do
  match v, name with
  | .loop _ position _ _, "cycle" =>
    match args with
    | [] => fail .invalidOperation
    | args => return args.getD (position % args.length) .undefined
  | .loop .., "changed" => return .bool (← changed args)
  | v, name =>
    match ← member v name with
    | some f => callValue c f args
    | none => fail .unknownMethod

/-- The value of a literal. -/
def literal : Literal → Value
  | .undefined => .undefined
  | .none => .none
  | .bool b => .bool b
  | .int n => .int n
  | .real digits e => .real (Float.ofScientific digits (e < 0) e.natAbs)
  | .str s => .text s

/-- The arguments of a call: positional ones, and named ones as one last value. -/
def joinArguments (pos : List Value) (named : List (Value × Value)) : List Value :=
  if named.isEmpty then pos else pos ++ [.named named]

mutual

/-- The value of an expression. -/
def eval (s : Setting) (c : Caller) (captured : Value) : Expr → Exec Value
  | .lit l => return literal l
  | .var name => do return (← lookup s name).getD .undefined
  | .captured => return captured
  | .list items => do return .seq (← evalList s c captured items)
  | .map keys values => do
    let ks ← evalList s c captured keys
    let vs ← evalList s c captured values
    return .map (Value.ofEntries (ks.zip vs))
  | .attr e name => do
    let v ← eval s c captured e
    orUndefined v (← member v name)
  | .item e sub => do
    let v ← eval s c captured e
    let k ← eval s c captured sub
    orUndefined v (← subscript v k)
  | .slice e start stop step => do
    let v ← eval s c captured e
    let start ← eval s c captured start
    let stop ← eval s c captured stop
    let step ← eval s c captured step
    lift (v.slice start stop step)
  | .call f args =>
    match f with
    | .var name => do
      let (pos, named) ← evalArgs s c captured args
      callName s c name (joinArguments pos named)
    | .attr (.var "self") name => callBlock s c name
    | .attr e name => do
      let v ← eval s c captured e
      let (pos, named) ← evalArgs s c captured args
      callMethod c v name (joinArguments pos named)
    | f => do
      let v ← eval s c captured f
      let (pos, named) ← evalArgs s c captured args
      callValue c v (joinArguments pos named)
  | .filter name e args => do
    let v ← eval s c captured e
    let (pos, named) ← evalArgs s c captured args
    lift (applyFilter name v (joinArguments pos named))
  | .test name e args => do
    let v ← eval s c captured e
    let (pos, named) ← evalArgs s c captured args
    return .bool (← lift (applyTest filterNames name v (joinArguments pos named)))
  | .unary .not e => do return .bool !(← eval s c captured e).isTrue
  | .unary .neg e => do lift (← eval s c captured e).neg
  | .binary .or l r => do
    let v ← eval s c captured l
    if v.isTrue then return v else eval s c captured r
  | .binary .and l r => do
    let v ← eval s c captured l
    if v.isTrue then eval s c captured r else return v
  | .binary op l r => do
    let v ← eval s c captured l
    let w ← eval s c captured r
    lift (Value.binary op v w)
  | .cond test yes no => do
    if (← eval s c captured test).isTrue then eval s c captured yes else eval s c captured no

/-- The values of expressions, from left to right. -/
def evalList (s : Setting) (c : Caller) (captured : Value) : List Expr → Exec (List Value)
  | [] => return []
  | e :: rest => do
    let v ← eval s c captured e
    return v :: (← evalList s c captured rest)

/-- The values of arguments: positional ones in order, named ones by name. -/
def evalArgs (s : Setting) (c : Caller) (captured : Value) :
    List Arg → Exec (List Value × List (Value × Value))
  | [] => return ([], [])
  | .pos e :: rest => do
    let v ← eval s c captured e
    let (pos, named) ← evalArgs s c captured rest
    return (v :: pos, named)
  | .named name e :: rest => do
    let v ← eval s c captured e
    let (pos, named) ← evalArgs s c captured rest
    return (pos, if (Value.lookupEntry (.text name) named).isSome then named
      else Value.insertEntry (.text name) v named)
  | .spread e :: rest => do
    let xs ← lift (itemsOf (← eval s c captured e))
    let (pos, named) ← evalArgs s c captured rest
    return (xs ++ pos, named)
  | .spreadNamed e :: rest => do
    match ← eval s c captured e with
    | .map es | .named es =>
      let (pos, named) ← evalArgs s c captured rest
      return (pos, Value.ofEntries (es ++ named))
    | .undefined => evalArgs s c captured rest
    | _ => fail .invalidOperation

end

mutual

/-- Assign a value to a target. -/
def assign (s : Setting) (c : Caller) : Target → Value → Exec Unit
  | .name n, v => store n v
  | .attr base n, v => do
    match ← eval s c .undefined base with
    | .store id =>
      modify fun m => { m with stores := m.stores.modify id (Value.insertEntry (.text n) v) }
    | _ => fail .invalidOperation
  | .tuple ts, v => do
    match v with
    | .group key xs =>
      if ts.length = 2 then assignAll s c ts [key, .seq xs] else fail .cannotUnpack
    | .seq xs | .iter xs _ =>
      if xs.length = ts.length then assignAll s c ts xs else fail .cannotUnpack
    | _ => fail .cannotUnpack

/-- Assign values to targets in order. -/
def assignAll (s : Setting) (c : Caller) : List Target → List Value → Exec Unit
  | t :: ts, v :: vs => do
    assign s c t v
    assignAll s c ts vs
  | _, _ => return ()

end

/-- Assign the values of expressions to targets, each before the next expression. -/
def assignEach (s : Setting) (c : Caller) : List Target → List Expr → Exec Unit
  | t :: ts, e :: es => do
    assign s c t (← eval s c .undefined e)
    assignEach s c ts es
  | _, _ => return ()

/-- Visit items in the innermost frame, from a position on. -/
def visit (bind : Value → Exec Unit) (body : Exec Unit) : Nat → List Value → Exec Unit
  | _, [] => return ()
  | i, v :: rest => do
    modifyFrame fun f => { f with loop := f.loop.map fun l => { l with position := i } }
    bind v
    body
    visit bind body (i + 1) rest

/-- Keep the items for which a condition holds. -/
def keepIf (bind : Value → Exec Unit) (test : Exec Value) : List Value → Exec (List Value)
  | [] => return []
  | v :: rest => do
    bind v
    let keep := (← test).isTrue
    let tail ← keepIf bind test rest
    return if keep then v :: tail else tail

/-- How deep a loop that starts now is nested: one deeper than a loop that can be called again. -/
def loopDepth : Exec Nat := do
  match (← get).frames.findSome? (·.loop) with
  | some l => return if l.recursion.isSome then l.depth + 1 else 0
  | none => return 0

/-- Run a loop over a value. -/
def runLoop (bind : Value → Exec Unit) (test : Option (Exec Value)) (body otherwise : Exec Unit)
    (recursion : Option Stmt) (v : Value) : Exec Unit := do
  let depth ← loopDepth
  let items ← lift (itemsOf v)
  let items ←
    match test with
    | some t => within .empty (keepIf bind t items)
    | none => pure items
  let state : LoopState := ⟨items, 0, depth, recursion, none⟩
  within { Frame.empty with loop := some state } (visit bind body 0 items)
  if items.isEmpty then otherwise else return ()

/-- How values are escaped from now on. -/
def escapingMode (s : Setting) (v : Value) : Except Fault Bool :=
  match v with
  | .str "html" _ => .ok true
  | .str "none" _ => .ok false
  | .str .. => .error .invalidOperation
  | v => .ok (Value.eqv v (.bool true) && (s.escaping || true))

/-- Refer to another template. -/
def refer (v : Value) (ignoreMissing : Bool) : Exec Unit :=
  match v with
  | .str .. => if ignoreMissing then return () else fail .templateNotFound
  | .seq xs | .iter xs _ =>
    if !xs.all fun x => x.kind == .string then fail .invalidOperation
    else if ignoreMissing then return () else fail .templateNotFound
  | _ => fail .invalidOperation

/-- Whether a condition always holds. -/
def isAlways : Expr → Bool
  | .lit (.bool true) => true
  | _ => false

mutual

/-- Carry out a statement. -/
def exec (s : Setting) (c : Caller) : Stmt → Exec Unit
  | .text t => write t
  | .emit e => do emit (← eval s c .undefined e)
  | .forLoop target source filter nested body otherwise => do
    let v ← eval s c .undefined source
    let test := if isAlways filter then none else some (eval s c .undefined filter)
    let self := if nested then some (Stmt.forLoop target source filter nested body otherwise)
      else none
    runLoop (assign s c target) test (execAll s c body) (execAll s c otherwise) self v
  | .ifElse test yes no => do
    if (← eval s c .undefined test).isTrue then execAll s c yes else execAll s c no
  | .withScope targets values body =>
    within .empty do
      assignEach s c targets values
      execAll s c body
  | .set target value => do assign s c target (← eval s c .undefined value)
  | .setBlock target filter body => do
    let text ← capture (execAll s c body)
    assign s c target (← eval s c text filter)
  | .autoescape mode body => do
    let mode ← lift (escapingMode s (← eval s c .undefined mode))
    let before := (← get).escaping
    modify fun m => { m with escaping := mode }
    execAll s c body
    modify fun m => { m with escaping := before }
  | .filterBlock filter body => do
    let text ← capture (execAll s c body)
    emit (← eval s c text filter)
  | .define d => do
    let scope ← closeOver
    store d.name (.defined d scope)
  | .callBlock callee args caller => do
    let scope ← closeOver
    let (pos, named) ← evalArgs s c .undefined args
    let all := joinArguments pos (Value.insertEntry (.text "caller") (.defined caller scope) named)
    match callee with
    | .var name => do emit (← callName s c name all)
    | .attr e name => do emit (← callMethod c (← eval s c .undefined e) name all)
    | f => do emit (← callValue c (← eval s c .undefined f) all)
  | .evaluate e => do discard (eval s c .undefined e)
  | .block _ body => within .empty (execAll s c body)
  | .refer name ignoreMissing => do refer (← eval s c .undefined name) ignoreMissing

/-- Carry out statements in order. -/
def execAll (s : Setting) (c : Caller) : List Stmt → Exec Unit
  | [] => return ()
  | st :: rest => do
    exec s c st
    execAll s c rest

end

/-- The values of the parameters of a definition, in order. -/
def bindParameters (named : List (Value × Value)) :
    List String → List Value → Except Fault (List (String × Value))
  | [], [] => .ok []
  | [], _ :: _ => .error .tooManyArguments
  | p :: ps, args => do
    let given := Value.lookupEntry (.text p) named
    match args, given with
    | _ :: _, some _ => .error .tooManyArguments
    | a :: rest, none => return (p, a) :: (← bindParameters named ps rest)
    | [], some v => return (p, v) :: (← bindParameters named ps [])
    | [], none => return (p, .undefined) :: (← bindParameters named ps [])

/-- Store the parameters, the last one first; an undefined one takes its default. -/
def storeParameters (s : Setting) (c : Caller) :
    List (String × Value) → List Expr → Exec Unit
  | [], _ => return ()
  | (p, v) :: rest, defaults => do
    let v ←
      match v, defaults with
      | .undefined, d :: _ => eval s c .undefined d
      | v, _ => pure v
    store p v
    storeParameters s c rest (defaults.drop 1)

/-- Call a definition: its names lie over the record that it sees. -/
def invokeWith (s : Setting) (c : Caller) (d : Definition) (scope : Nat) (args : List Value) :
    Exec Value := do
  let (pos, named) := Arguments.split args
  let params ← lift (bindParameters named d.params pos)
  let allowed := "caller" :: d.params
  if !named.all fun (k, _) => allowed.contains k.print then fail .tooManyArguments
  else
    let m ← get
    let frames := m.frames
    set { m with frames := [{ Frame.empty with base := some scope }] }
    match Value.lookupEntry (.text "caller") named with
    | some v => store "caller" v
    | none => pure ()
    let text ← capture do
      storeParameters s c params.reverse d.defaults.reverse
      execAll s c d.body
    modify fun m => { m with frames := frames }
    return text

/-- Run a nested loop again. -/
def againWith (s : Setting) (c : Caller) (st : Stmt) (v : Value) : Exec Value :=
  match st with
  | .forLoop target _ filter _ body otherwise =>
    let test := if isAlways filter then none else some (eval s c .undefined filter)
    capture (runLoop (assign s c target) test (execAll s c body) (execAll s c otherwise) (some st) v)
  | _ => fail .invalidOperation

/-- Render the statements of a block. -/
def blockWith (s : Setting) (c : Caller) (body : List Stmt) : Exec Value :=
  capture (within .empty (execAll s c body))

/-- The calls that may be nested to a depth. -/
def callerUpTo (s : Setting) : Nat → Caller
  | 0 => ⟨fun _ _ _ => fail .invalidOperation, fun _ _ => fail .invalidOperation,
      fun _ => fail .invalidOperation⟩
  | depth + 1 => ⟨invokeWith s (callerUpTo s depth), againWith s (callerUpTo s depth),
      blockWith s (callerUpTo s depth)⟩

end Exec

/-- How deep calls may be nested. -/
def callDepth : Nat := 100

/-- Render statements. -/
def render (s : Setting) (stmts : List Stmt) : Except Fault String := do
  let start : Machine := ⟨[.empty], [], [], [], s.escaping⟩
  let (_, m) ← (Exec.execAll s (Exec.callerUpTo s callDepth) stmts) start
  return String.join m.output.reverse

end ObjectGateway.Template
