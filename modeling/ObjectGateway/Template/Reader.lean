import ObjectGateway.Template.Token
import ObjectGateway.Template.Tree

/-!
# Reading templates

The grammar of expressions and statements over the tokens of a template.  A reader takes tokens
from the front of a list and fails on the first one that does not fit.  Each rule calls the rules
below it with one step less; the number of steps is far more than the tokens can use up.
-/

namespace ObjectGateway.Template

/-- Takes tokens from the front of a list, or fails. -/
abbrev Reader (α : Type) := StateT (List Token) Option α

namespace Reader

/-- The next token, which is not taken. -/
def peek : Reader (Option Token) := do
  return (← get).head?

/-- Take the next token. -/
def next : Reader Token := do
  match ← get with
  | [] => failure
  | t :: ts => set ts; return t

/-- Take the next token if it is the given one. -/
def skip (t : Token) : Reader Bool := do
  match ← get with
  | [] => return false
  | u :: ts => if u = t then set ts; return true else return false

/-- Take the given token. -/
def expect (t : Token) : Reader Unit := do
  if ← skip t then return () else failure

/-- Take the given sign. -/
def expectSign (s : Sign) : Reader Unit := expect (.sign s)

/-- Take the given sign if it comes next. -/
def skipSign (s : Sign) : Reader Bool := skip (.sign s)

/-- Take the given word if it comes next. -/
def skipWord (w : String) : Reader Bool := skip (.ident w)

/-- Take a name. -/
def ident : Reader String := do
  match ← next with
  | .ident s => return s
  | _ => failure

/-- The operator of a sum that a sign stands for. -/
def additive? : Token → Option BinaryOp
  | .sign .plus => some .add
  | .sign .minus => some .sub
  | _ => none

/-- The operator of a product that a sign stands for. -/
def multiplicative? : Token → Option BinaryOp
  | .sign .star => some .mul
  | .sign .slash => some .div
  | .sign .floorSlash => some .floorDiv
  | .sign .percent => some .rem
  | _ => none

/-- The comparison that a sign or the word "in" stands for. -/
def comparison? : Token → Option BinaryOp
  | .sign .eq => some .eq
  | .sign .ne => some .ne
  | .sign .lt => some .lt
  | .sign .le => some .le
  | .sign .gt => some .gt
  | .sign .ge => some .ge
  | .ident "in" => some .mem
  | _ => none

/-- The names that cannot be assigned to. -/
def reservedNames : List String :=
  ["true", "True", "false", "False", "none", "None", "loop", "self"]

/-- Take a name that can be assigned to. -/
def assignable : Reader String := do
  let s ← ident
  if reservedNames.contains s then failure else return s

/-- Whether a token begins the argument of a test that is written without parentheses. -/
def beginsTestArgument : Token → Bool
  | .ident s => !(["and", "or", "else", "is"].contains s)
  | .str _ | .int _ | .real _ _ => true
  | .sign .plus | .sign .minus | .sign .bracketOpen | .sign .braceOpen => true
  | _ => false

mutual

/-- An expression, a condition included. -/
def expr : Nat → Reader Expr
  | 0 => failure
  | fuel + 1 => do conditions fuel (← disjunction fuel)

/-- The conditions that follow a value. -/
def conditions : Nat → Expr → Reader Expr
  | 0, _ => failure
  | fuel + 1, e => do
    if ← skipWord "if" then
      let test ← disjunction fuel
      let no ← if ← skipWord "else" then expr fuel else pure (.lit .undefined)
      conditions fuel (.cond test e no)
    else return e

/-- Alternatives. -/
def disjunction : Nat → Reader Expr
  | 0 => failure
  | fuel + 1 => do disjunctionTail fuel (← conjunction fuel)

/-- The alternatives that follow a value. -/
def disjunctionTail : Nat → Expr → Reader Expr
  | 0, _ => failure
  | fuel + 1, l => do
    if ← skipWord "or" then disjunctionTail fuel (.binary .or l (← conjunction fuel)) else return l

/-- Values that must all hold. -/
def conjunction : Nat → Reader Expr
  | 0 => failure
  | fuel + 1 => do conjunctionTail fuel (← negation fuel)

/-- The further values that must hold. -/
def conjunctionTail : Nat → Expr → Reader Expr
  | 0, _ => failure
  | fuel + 1, l => do
    if ← skipWord "and" then conjunctionTail fuel (.binary .and l (← negation fuel)) else return l

/-- A comparison, or its negation. -/
def negation : Nat → Reader Expr
  | 0 => failure
  | fuel + 1 => do
    if ← skipWord "not" then return .unary .not (← negation fuel)
    else comparisonTail fuel (← sum fuel)

/-- The comparisons that follow a value, from left to right. -/
def comparisonTail : Nat → Expr → Reader Expr
  | 0, _ => failure
  | fuel + 1, l => do
    match ← peek with
    | some (.ident "not") =>
      discard next
      expect (.ident "in")
      comparisonTail fuel (.unary .not (.binary .mem l (← sum fuel)))
    | some t =>
      match comparison? t with
      | some op =>
        discard next
        comparisonTail fuel (.binary op l (← sum fuel))
      | none => return l
    | none => return l

/-- Sums and differences. -/
def sum : Nat → Reader Expr
  | 0 => failure
  | fuel + 1 => do sumTail fuel (← concatenation fuel)

/-- The further summands. -/
def sumTail : Nat → Expr → Reader Expr
  | 0, _ => failure
  | fuel + 1, l => do
    match (← peek).bind additive? with
    | some op =>
      discard next
      sumTail fuel (.binary op l (← concatenation fuel))
    | none => return l

/-- Joined texts. -/
def concatenation : Nat → Reader Expr
  | 0 => failure
  | fuel + 1 => do concatenationTail fuel (← product fuel)

/-- The further joined texts. -/
def concatenationTail : Nat → Expr → Reader Expr
  | 0, _ => failure
  | fuel + 1, l => do
    if ← skipSign .tilde then concatenationTail fuel (.binary .concat l (← product fuel))
    else return l

/-- Products and quotients. -/
def product : Nat → Reader Expr
  | 0 => failure
  | fuel + 1 => do productTail fuel (← power fuel)

/-- The further factors. -/
def productTail : Nat → Expr → Reader Expr
  | 0, _ => failure
  | fuel + 1, l => do
    match (← peek).bind multiplicative? with
    | some op =>
      discard next
      productTail fuel (.binary op l (← power fuel))
    | none => return l

/-- Powers. -/
def power : Nat → Reader Expr
  | 0 => failure
  | fuel + 1 => do powerTail fuel (← filtered fuel)

/-- The further exponents. -/
def powerTail : Nat → Expr → Reader Expr
  | 0, _ => failure
  | fuel + 1, l => do
    if ← skipSign .power then powerTail fuel (.binary .pow l (← filtered fuel)) else return l

/-- A value with its filters and tests. -/
def filtered : Nat → Reader Expr
  | 0 => failure
  | fuel + 1 => do filterTail fuel (← suffixTail fuel (← signed fuel))

/-- A value with its signs. -/
def signed : Nat → Reader Expr
  | 0 => failure
  | fuel + 1 => do
    if ← skipSign .minus then return .unary .neg (← signed fuel) else primary fuel

/-- The members, subscripts and calls that follow a value. -/
def suffixTail : Nat → Expr → Reader Expr
  | 0, _ => failure
  | fuel + 1, e => do
    match ← peek with
    | some (.sign .dot) =>
      discard next
      suffixTail fuel (.attr e (← ident))
    | some (.sign .bracketOpen) =>
      discard next
      suffixTail fuel (← subscript fuel e)
    | some (.sign .parenOpen) => suffixTail fuel (.call e (← arguments fuel))
    | _ => return e

/-- What stands between the brackets of a subscript or slice. -/
def subscript : Nat → Expr → Reader Expr
  | 0, _ => failure
  | fuel + 1, e => do
    let absent : Expr := .lit .none
    let (start, sliced) ←
      if ← skipSign .colon then pure (absent, true)
      else do
        let start ← expr fuel
        pure (start, ← skipSign .colon)
    if sliced then
      let atEnd ← do
        match ← peek with
        | some (.sign .bracketClose) | some (.sign .colon) => pure true
        | _ => pure false
      let stop ← if atEnd then pure absent else expr fuel
      let step ←
        if ← skipSign .colon then do
          if (← peek) = some (.sign .bracketClose) then pure absent else expr fuel
        else pure absent
      expectSign .bracketClose
      return .slice e start stop step
    else
      expectSign .bracketClose
      return .item e start

/-- The filters and tests that follow a value. -/
def filterTail : Nat → Expr → Reader Expr
  | 0, _ => failure
  | fuel + 1, e => do
    if ← skipSign .bar then
      let name ← ident
      let args ← optionalArguments fuel
      filterTail fuel (.filter name e args)
    else if ← skipWord "is" then
      let negated ← skipWord "not"
      let name ← ident
      let args ←
        match ← peek with
        | some (.sign .parenOpen) => arguments fuel
        | some t =>
          if beginsTestArgument t then do
            let a ← suffixTail fuel (← signed fuel)
            pure [.pos a]
          else pure []
        | none => pure []
      let test : Expr := .test name e args
      filterTail fuel (if negated then .unary .not test else test)
    else return e

/-- Arguments in parentheses, if there are any. -/
def optionalArguments : Nat → Reader (List Arg)
  | 0 => failure
  | fuel + 1 => do
    if (← peek) = some (.sign .parenOpen) then arguments fuel else return []

/-- Arguments in parentheses. -/
def arguments : Nat → Reader (List Arg)
  | 0 => failure
  | fuel + 1 => do
    expectSign .parenOpen
    argumentTail fuel true false

/-- The arguments up to the closing parenthesis.  Positional ones cannot follow named ones. -/
def argumentTail : Nat → Bool → Bool → Reader (List Arg)
  | 0, _, _ => failure
  | fuel + 1, first, named => do
    if ← skipSign .parenClose then return []
    if !first then expectSign .comma
    if !first && (← skipSign .parenClose) then return []
    if ← skipSign .power then
      let e ← expr fuel
      return .spreadNamed e :: (← argumentTail fuel false true)
    if ← skipSign .star then
      let e ← expr fuel
      return .spread e :: (← argumentTail fuel false named)
    let e ← expr fuel
    match e with
    | .var name =>
      if ← skipSign .assign then
        let value ← disjunction fuel
        return .named name value :: (← argumentTail fuel false true)
      else if named then failure
      else return .pos e :: (← argumentTail fuel false false)
    | e =>
      if named then failure else return .pos e :: (← argumentTail fuel false false)

/-- A literal, a name, or something in brackets. -/
def primary : Nat → Reader Expr
  | 0 => failure
  | fuel + 1 => do
    match ← next with
    | .ident "true" | .ident "True" => return .lit (.bool true)
    | .ident "false" | .ident "False" => return .lit (.bool false)
    | .ident "none" | .ident "None" => return .lit .none
    | .ident name => return .var name
    | .str s => return .lit (.str s)
    | .int n => return .lit (.int n)
    | .real d e => return .lit (.real d e)
    | .sign .parenOpen =>
      if ← skipSign .parenClose then return .list []
      let e ← expr fuel
      if (← peek) = some (.sign .comma) then
        return .list (e :: (← itemTail fuel .parenClose false))
      else
        expectSign .parenClose
        return e
    | .sign .bracketOpen => return .list (← itemTail fuel .bracketClose true)
    | .sign .braceOpen =>
      let entries ← entryTail fuel true
      return .map (entries.map Prod.fst) (entries.map Prod.snd)
    | _ => failure

/-- The items of a list up to its closing sign. -/
def itemTail : Nat → Sign → Bool → Reader (List Expr)
  | 0, _, _ => failure
  | fuel + 1, close, first => do
    if ← skipSign close then return []
    if !first then expectSign .comma
    if !first && (← skipSign close) then return []
    let e ← expr fuel
    return e :: (← itemTail fuel close false)

/-- The entries of a map up to its closing brace. -/
def entryTail : Nat → Bool → Reader (List (Expr × Expr))
  | 0, _ => failure
  | fuel + 1, first => do
    if ← skipSign .braceClose then return []
    if !first then expectSign .comma
    if !first && (← skipSign .braceClose) then return []
    let k ← expr fuel
    expectSign .colon
    let v ← expr fuel
    return (k, v) :: (← entryTail fuel false)

end

mutual

/-- What a loop or a parenthesised assignment assigns to: a name, or several with commas. -/
def target : Nat → Reader Target
  | 0 => failure
  | fuel + 1 => do
    let items ← targetTail fuel
    match items with
    | ([t], false) => return t
    | (ts, _) => return .tuple ts

/-- The targets of an assignment, and whether a comma stood between or after them. -/
def targetTail : Nat → Reader (List Target × Bool)
  | 0 => failure
  | fuel + 1 => do
    match ← peek with
    | some (.sign .parenClose) | some .valueEnd | some .blockEnd | some (.ident "in") =>
      return ([], false)
    | _ =>
      let t ←
        if ← skipSign .parenOpen then do
          let t ← target fuel
          expectSign .parenClose
          pure t
        else Target.name <$> assignable
      if ← skipSign .comma then
        let (rest, _) ← targetTail fuel
        return (t :: rest, true)
      else return ([t], false)

end

/-- The attributes that follow a name that is assigned to. -/
def attributeTail : Nat → Expr → Target → Reader Target
  | 0, _, _ => failure
  | fuel + 1, e, t => do
    if ← skipSign .dot then
      let name ← ident
      attributeTail fuel (.attr e name) (.attr e name)
    else return t

/-- A chain of filters on what a block renders. -/
def filterChain : Nat → Expr → Reader Expr
  | 0, _ => failure
  | fuel + 1, e => do
    let name ← ident
    let args ← optionalArguments fuel
    let e : Expr := .filter name e args
    if ← skipSign .bar then filterChain fuel e else return e

/-- Names with defaults, up to the closing parenthesis.  A name after one with a default needs a
default as well. -/
def parameterTail : Nat → Bool → Bool → Reader (List String × List Expr)
  | 0, _, _ => failure
  | fuel + 1, first, defaulted => do
    if ← skipSign .parenClose then return ([], [])
    if !first then expectSign .comma
    if !first && (← skipSign .parenClose) then return ([], [])
    let name ← assignable
    if ← skipSign .assign then
      let d ← expr fuel
      let (ps, ds) ← parameterTail fuel false true
      return (name :: ps, d :: ds)
    else if defaulted then failure
    else
      let (ps, ds) ← parameterTail fuel false false
      return (name :: ps, ds)

/-- Targets and values of a scope. -/
def bindingTail : Nat → Bool → Reader (List Target × List Expr)
  | 0, _ => failure
  | fuel + 1, first => do
    if (← peek) = some .blockEnd then return ([], [])
    if !first then expectSign .comma
    let t ←
      if ← skipSign .parenOpen then do
        let t ← target fuel
        expectSign .parenClose
        pure t
      else Target.name <$> assignable
    expectSign .assign
    let v ← expr fuel
    let (ts, vs) ← bindingTail fuel false
    return (t :: ts, v :: vs)

/-- Names that are taken from another template, up to the end of the statement. -/
def importTail : Nat → Bool → Reader Unit
  | 0, _ => failure
  | fuel + 1, first => do
    if (← peek) = some .blockEnd then return ()
    if !first then expectSign .comma
    if !first && (← peek) = some .blockEnd then return ()
    discard assignable
    if ← skipWord "as" then discard assignable
    importTail fuel false

mutual

/-- Statements up to one of the given words, which is not taken, or to the end of the template. -/
def body : Nat → List String → Reader (List Stmt)
  | 0, _ => failure
  | fuel + 1, ends => do
    match ← get with
    | [] => return []
    | _ =>
      match ← next with
      | .data s => return .text s :: (← body fuel ends)
      | .valueStart =>
        let e ← expr fuel
        expect .valueEnd
        return .emit e :: (← body fuel ends)
      | .blockStart =>
        match ← peek with
        | some (.ident w) =>
          if ends.contains w then return []
          else
            let s ← stmt fuel
            expect .blockEnd
            return s :: (← body fuel ends)
        | _ => failure
      | _ => failure

/-- The statements of a block up to its last word, which is taken. -/
def closedBody : Nat → String → Reader (List Stmt)
  | 0, _ => failure
  | fuel + 1, last => do
    expect .blockEnd
    let b ← body fuel [last]
    expect (.ident last)
    return b

/-- What follows the condition of a choice. -/
def choice : Nat → Reader Stmt
  | 0 => failure
  | fuel + 1 => do
    let test ← expr fuel
    expect .blockEnd
    let yes ← body fuel ["endif", "else", "elif"]
    match ← next with
    | .ident "else" => return .ifElse test yes (← closedBody fuel "endif")
    | .ident "elif" => return .ifElse test yes [← choice fuel]
    | _ => return .ifElse test yes []

/-- A statement, without its closing mark. -/
def stmt : Nat → Reader Stmt
  | 0 => failure
  | fuel + 1 => do
    match ← ident with
    | "if" => choice fuel
    | "for" =>
      let t ← target fuel
      expect (.ident "in")
      let source ← disjunction fuel
      let filter ← if ← skipWord "if" then expr fuel else pure (.lit (.bool true))
      let nested ← skipWord "recursive"
      expect .blockEnd
      let inner ← body fuel ["endfor", "else"]
      let otherwise ←
        if ← skipWord "else" then closedBody fuel "endfor"
        else do
          expect (.ident "endfor")
          pure []
      return .forLoop t source filter nested inner otherwise
    | "with" =>
      let (ts, vs) ← bindingTail fuel true
      return .withScope ts vs (← closedBody fuel "endwith")
    | "set" =>
      let (t, grouped) ←
        if ← skipSign .parenOpen then do
          let t ← target fuel
          expectSign .parenClose
          pure (t, true)
        else do
          let name ← assignable
          let t ← attributeTail fuel (.var name) (.name name)
          pure (t, false)
      let opens ← do
        match ← peek with
        | some .blockEnd | some (.sign .bar) => pure !grouped
        | _ => pure false
      if opens then
        let chain ← if ← skipSign .bar then filterChain fuel .captured else pure .captured
        return .setBlock t chain (← closedBody fuel "endset")
      else
        expectSign .assign
        return .set t (← expr fuel)
    | "autoescape" =>
      let mode ← expr fuel
      return .autoescape mode (← closedBody fuel "endautoescape")
    | "filter" =>
      let chain ← filterChain fuel .captured
      return .filterBlock chain (← closedBody fuel "endfilter")
    | "macro" =>
      let name ← ident
      expectSign .parenOpen
      let (ps, ds) ← parameterTail fuel true false
      return .define (.mk name ps ds (← closedBody fuel "endmacro"))
    | "call" =>
      let (ps, ds) ← if ← skipSign .parenOpen then parameterTail fuel true false else pure ([], [])
      match ← expr fuel with
      | .call f args => return .callBlock f args (.mk "caller" ps ds (← closedBody fuel "endcall"))
      | _ => failure
    | "do" =>
      match ← expr fuel with
      | .call f args => return .evaluate (.call f args)
      | _ => failure
    | "block" =>
      let name ← ident
      expect .blockEnd
      let inner ← body fuel ["endblock"]
      expect (.ident "endblock")
      match ← peek with
      | some (.ident s) => if s = name then discard next else failure
      | _ => pure ()
      return .block name inner
    | "include" =>
      let e ← expr fuel
      let ignored ←
        if ← skipWord "ignore" then do
          expect (.ident "missing")
          pure true
        else pure false
      return .refer e ignored
    | "extends" => return .refer (← expr fuel) false
    | "import" =>
      let e ← expr fuel
      expect (.ident "as")
      discard (target fuel)
      return .refer e false
    | "from" =>
      let e ← expr fuel
      expect (.ident "import")
      importTail fuel true
      return .refer e false
    | _ => failure

end

/-- Whether the blocks of a template have different names and stand outside of definitions. -/
def blocksFit (stmts : List Stmt) : Bool :=
  decide ((blocksOf stmts).map (·.1)).Nodup && !anyDefinesBlock stmts

/-- The statements of all tokens. -/
def template (tokens : List Token) : Option (List Stmt) := do
  let (stmts, rest) ← body (24 * tokens.length + 24) [] tokens
  if rest.isEmpty && blocksFit stmts then some stmts else none

end Reader

/-- Why a template cannot be rendered. -/
inductive Fault
  | syntaxError
  | badEscape
  | undefinedValue
  | unknownFunction
  | unknownFilter
  | unknownTest
  | unknownMethod
  | invalidOperation
  | missingArgument
  | tooManyArguments
  | cannotUnpack
  | templateNotFound
  | unknownBlock
  deriving Repr, DecidableEq, Inhabited

/-- The wording of a fault. -/
def Fault.message : Fault → String
  | syntaxError => "syntax error"
  | badEscape => "bad string escape"
  | undefinedValue => "undefined value"
  | unknownFunction => "unknown function"
  | unknownFilter => "unknown filter"
  | unknownTest => "unknown test"
  | unknownMethod => "unknown method"
  | invalidOperation => "invalid operation"
  | missingArgument => "missing argument"
  | tooManyArguments => "too many arguments"
  | cannotUnpack => "cannot unpack"
  | templateNotFound => "template not found"
  | unknownBlock => "unknown block"

/-- Read a template. -/
def read (source : String) : Except Fault (List Stmt) :=
  match Token.read source with
  | .error .malformed => .error .syntaxError
  | .error .badEscape => .error .badEscape
  | .ok tokens =>
    match Reader.template tokens with
    | some stmts => .ok stmts
    | none => .error .syntaxError

end ObjectGateway.Template
