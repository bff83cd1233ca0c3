/-!
# Template trees

What a template means: text, values to print, and statements.  Expressions that may be left out in
a template (the bounds of a slice, the last branch of a condition) are literals here, so that every
part of a tree is a tree.
-/

namespace ObjectGateway.Template

/-- A literal value. -/
inductive Literal
  | undefined
  | none
  | bool (b : Bool)
  | int (n : Nat)
  /-- `digits · 10 ^ exponent`. -/
  | real (digits : Nat) (exponent : Int)
  | str (s : String)
  deriving Repr, DecidableEq

/-- Operators on one value. -/
inductive UnaryOp
  | neg
  | not
  deriving Repr, DecidableEq

/-- Operators on two values. -/
inductive BinaryOp
  | or
  | and
  | eq
  | ne
  | lt
  | le
  | gt
  | ge
  | mem
  | add
  | sub
  | concat
  | mul
  | div
  | floorDiv
  | rem
  | pow
  deriving Repr, DecidableEq

mutual

/-- An expression. -/
inductive Expr
  | lit (l : Literal)
  | var (name : String)
  /-- The text that a filter block has rendered. -/
  | captured
  | list (items : List Expr)
  | map (keys values : List Expr)
  | attr (e : Expr) (name : String)
  | item (e subscript : Expr)
  | slice (e start stop step : Expr)
  | call (f : Expr) (args : List Arg)
  | filter (name : String) (e : Expr) (args : List Arg)
  | test (name : String) (e : Expr) (args : List Arg)
  | unary (op : UnaryOp) (e : Expr)
  | binary (op : BinaryOp) (l r : Expr)
  | cond (test yes no : Expr)

/-- An argument of a call. -/
inductive Arg
  | pos (e : Expr)
  | named (name : String) (e : Expr)
  | spread (e : Expr)
  | spreadNamed (e : Expr)

end

/-- What an assignment assigns to. -/
inductive Target
  | name (s : String)
  | attr (base : Expr) (name : String)
  | tuple (items : List Target)

mutual

/-- A statement. -/
inductive Stmt
  | text (s : String)
  | emit (e : Expr)
  | forLoop (target : Target) (source filter : Expr) (nested : Bool) (body otherwise : List Stmt)
  | ifElse (test : Expr) (yes no : List Stmt)
  | withScope (targets : List Target) (values : List Expr) (body : List Stmt)
  | set (target : Target) (value : Expr)
  | setBlock (target : Target) (filter : Expr) (body : List Stmt)
  | autoescape (mode : Expr) (body : List Stmt)
  | filterBlock (filter : Expr) (body : List Stmt)
  | define (d : Definition)
  | callBlock (callee : Expr) (args : List Arg) (caller : Definition)
  | evaluate (e : Expr)
  | block (name : String) (body : List Stmt)
  /-- Refer to another template; nothing else is known under any name. -/
  | refer (name : Expr) (ignoreMissing : Bool)

/-- A named piece of template with parameters; the last parameters may have defaults. -/
inductive Definition
  | mk (name : String) (params : List String) (defaults : List Expr) (body : List Stmt)

end

namespace Definition

/-- The name of a definition. -/
def name : Definition → String
  | mk n _ _ _ => n

/-- The names of its parameters. -/
def params : Definition → List String
  | mk _ ps _ _ => ps

/-- The defaults of its last parameters. -/
def defaults : Definition → List Expr
  | mk _ _ ds _ => ds

/-- What it renders. -/
def body : Definition → List Stmt
  | mk _ _ _ b => b

end Definition

mutual

/-- The blocks of a statement, from the outside in. -/
def Stmt.blocks : Stmt → List (String × List Stmt)
  | .forLoop _ _ _ _ body otherwise => blocksOf body ++ blocksOf otherwise
  | .ifElse _ yes no => blocksOf yes ++ blocksOf no
  | .withScope _ _ body | .setBlock _ _ body | .autoescape _ body | .filterBlock _ body =>
    blocksOf body
  | .block name body => (name, body) :: blocksOf body
  | _ => []

/-- The blocks of statements. -/
def blocksOf : List Stmt → List (String × List Stmt)
  | [] => []
  | s :: rest => s.blocks ++ blocksOf rest

end

mutual

/-- Whether a definition in a statement holds a block. -/
def Stmt.definesBlock : Stmt → Bool
  | .forLoop _ _ _ _ body otherwise => anyDefinesBlock body || anyDefinesBlock otherwise
  | .ifElse _ yes no => anyDefinesBlock yes || anyDefinesBlock no
  | .withScope _ _ body | .setBlock _ _ body | .autoescape _ body | .filterBlock _ body
  | .block _ body => anyDefinesBlock body
  | .define (.mk _ _ _ body) | .callBlock _ _ (.mk _ _ _ body) =>
    !(blocksOf body).isEmpty || anyDefinesBlock body
  | _ => false

/-- Whether a definition in statements holds a block. -/
def anyDefinesBlock : List Stmt → Bool
  | [] => false
  | s :: rest => s.definesBlock || anyDefinesBlock rest

end

end ObjectGateway.Template
