import ObjectGateway.Template.HumanSize
import ObjectGateway.Template.Operator
import ObjectGateway.Text.Blank
import ObjectGateway.Text.CaseMap
import ObjectGateway.Text.Property

/-!
# Filters and tests

A filter makes a value from a value and arguments, a test decides something about a value.  Both
are looked up by name.  Named arguments arrive as one last value.
-/

namespace ObjectGateway.Template

namespace Arguments

/-- Take off the named arguments. -/
def split : List Value → List Value × List (Value × Value)
  | [] => ([], [])
  | [.named es] => ([], es)
  | v :: rest =>
    let (pos, named) := split rest
    (v :: pos, named)

/-- Exactly no arguments. -/
def none {α : Type} (args : List Value) (x : α) : Except Fault α :=
  if args.isEmpty then .ok x else .error .tooManyArguments

/-- An argument that is printed. -/
def text : Value → Except Fault String
  | .named _ => .error .invalidOperation
  | v => .ok v.print

/-- An argument that must be a text. -/
def exactText : Value → Except Fault String
  | .str s _ => .ok s
  | _ => .error .invalidOperation

/-- An argument that is an integer in a range. -/
def integer (low high : Int) (v : Value) : Except Fault Int :=
  match v.toInt? with
  | some i => if low ≤ i ∧ i ≤ high then .ok i else .error .invalidOperation
  | Option.none => .error .invalidOperation

/-- An argument that is a number of things. -/
def size (v : Value) : Except Fault Nat :=
  Int.toNat <$> integer 0 (Int.pow 2 64 - 1) v

/-- An argument that is true or false. -/
def truth : Value → Except Fault Bool
  | .bool b => .ok b
  | _ => .error .invalidOperation

/-- An argument that may be left out. -/
def optional {α : Type} (read : Value → Except Fault α) : Option Value → Except Fault (Option α)
  | Option.none | some .undefined | some .none => .ok Option.none
  | some v => some <$> read v

/-- At most `n` arguments. -/
def atMost (n : Nat) (args : List Value) : Except Fault Unit :=
  if args.length ≤ n then .ok () else .error .tooManyArguments

/-- At least and at most a number of arguments. -/
def between (low high : Nat) (args : List Value) : Except Fault Unit :=
  if args.length < low then .error .missingArgument else atMost high args

/-- A named argument that may be left out. -/
def namedOptional {α : Type} (read : Value → Except Fault α) (named : List (Value × Value))
    (name : String) : Except Fault (Option α) :=
  optional read (Value.lookupEntry (.text name) named)

/-- All named arguments must have one of the names. -/
def known (names : List String) (named : List (Value × Value)) : Except Fault Unit :=
  if named.all fun (k, _) => names.contains k.print then .ok () else .error .tooManyArguments

end Arguments

/-- The upper case of a text. -/
def upperText (s : String) : String :=
  String.ofList (s.toList.flatMap Text.upperChars)

/-- Whether a character has a case. -/
def isCased (c : Char) : Bool :=
  Text.lowerChar c != c || Text.upperChars c != [c]

/-- The lower case of a text, read with the characters before each one.  A capital sigma at the end
of a word becomes a final sigma. -/
def lowerFrom (before : List Char) : List Char → List Char
  | [] => []
  | c :: cs =>
    let skip (cs : List Char) := cs.dropWhile fun d => Text.isExtender d || d == '\'' || d == '.'
    let lowered :=
      if c.toNat = 0x3A3 then
        let precededByLetter := ((skip before).head?.map isCased).getD false
        let followedByLetter := ((skip cs).head?.map isCased).getD false
        if precededByLetter && !followedByLetter then [Char.ofNat 0x3C2] else [Char.ofNat 0x3C3]
      else Text.lowerChars c
    lowered ++ lowerFrom (c :: before) cs

/-- The lower case of a text. -/
def lowerText (s : String) : String :=
  String.ofList (lowerFrom [] s.toList)

/-- Capitals at the beginning of each word, small letters elsewhere. -/
def titleFrom (atStart : Bool) : List Char → List Char
  | [] => []
  | c :: cs =>
    let isPunctuation := 0x21 ≤ c.toNat && c.toNat ≤ 0x7E && !c.isAlphanum
    if isPunctuation || Text.isBlank c then c :: titleFrom true cs
    else if atStart then Text.upperChars c ++ titleFrom false cs
    else Text.lowerChars c ++ titleFrom false cs

/-- Replace every occurrence of a text.  At most `fuel` characters are looked at. -/
def replaceFrom (pat new : List Char) : Nat → List Char → List Char
  | 0, cs => cs
  | fuel + 1, cs =>
    match cs with
    | [] => []
    | c :: rest =>
      if pat.isPrefixOf cs then new ++ replaceFrom pat new fuel (cs.drop pat.length)
      else c :: replaceFrom pat new fuel rest

/-- Replace every occurrence of a text; the empty text occurs around every character. -/
def replaceText (pat new s : String) : String :=
  if pat.isEmpty then
    String.ofList (new.toList ++ s.toList.flatMap fun c => c :: new.toList)
  else String.ofList (replaceFrom pat.toList new.toList (s.length + 1) s.toList)

/-- Split at every occurrence of a text, at most `limit` times. -/
def splitText (pat : List Char) : Nat → Nat → List Char → List (List Char)
  | 0, _, cs => [cs]
  | _, 0, cs => [cs]
  | fuel + 1, limit + 1, cs =>
    match splitAtText pat cs with
    | some (before, after) => before :: splitText pat fuel limit after
    | Option.none => [cs]

/-- The runs of characters that are not blank. -/
def words (cs : List Char) : List (List Char) :=
  (cs.splitBy fun a b => Text.isBlank a == Text.isBlank b).filter fun w =>
    match w with
    | c :: _ => !Text.isBlank c
    | [] => false

/-- Split at blanks into at most `limit` parts; the last one keeps its blanks. -/
def splitWords : Nat → List Char → List (List Char)
  | 0, _ => []
  | 1, cs =>
    let cs := cs.dropWhile Text.isBlank
    if cs.isEmpty then [] else [cs]
  | n + 2, cs =>
    let cs := cs.dropWhile Text.isBlank
    if cs.isEmpty then []
    else cs.takeWhile (!Text.isBlank ·) :: splitWords (n + 1) (cs.dropWhile (!Text.isBlank ·))

/-- The lines of a text, without their ends. -/
def lines (s : String) : List String :=
  let parts := (splitText ['\n'] (s.length + 1) s.length s.toList)
  let parts := if parts.getLast? = some [] then parts.dropLast else parts
  parts.map fun l => String.ofList (if l.getLast? = some '\r' then l.dropLast else l)

/-- Groups of a number of items; the last one is filled up if there is something to fill with. -/
def batches (n : Nat) (fill : Option Value) : Nat → List Value → List Value
  | 0, _ => []
  | fuel + 1, xs =>
    if xs.isEmpty then []
    else
      let here := xs.take n
      let here :=
        match fill with
        | some v => here ++ List.replicate (n - here.length) v
        | Option.none => here
      .seq here :: batches n fill fuel (xs.drop n)

/-- A number of groups of almost equal size, from a position on. -/
def columns (each extra : Nat) (fill : Option Value) : Nat → Nat → List Value → List Value
  | 0, _, _ => []
  | n + 1, index, xs =>
    let size := each + if index < extra then 1 else 0
    let here := xs.take size
    let here :=
      match fill with
      | some v => if extra ≤ index && 0 < extra then here ++ [v] else here
      | Option.none => here
    .seq here :: columns each extra fill n (index + 1) (xs.drop size)

/-- Put blanks before the lines of a text. -/
def indent (width : Nat) (first blank : Bool) (s : String) : String :=
  let drop (c : Char) (cs : List Char) := if cs.getLast? = some c then cs.dropLast else cs
  let stripEnd (cs : List Char) := drop '\r' (drop '\n' cs)
  let parts := splitText ['\n'] (s.length + 1) s.length (stripEnd s.toList)
  let margin := List.replicate width ' '
  let shift (l : List Char) := if l.isEmpty && !blank then l else margin ++ l
  let shifted :=
    match parts with
    | [] => []
    | l :: rest => (if first then shift l else l) :: rest.map shift
  String.ofList (stripEnd (shifted.flatMap (· ++ ['\n'])))

/-- The number that a text writes: a sign, digits, a point, digits and an exponent. -/
def realOfText? (s : String) : Option Float :=
  let (negative, cs) :=
    match s.toList with
    | '-' :: cs => (true, cs)
    | '+' :: cs => (false, cs)
    | cs => (false, cs)
  let word := Text.asciiLower (String.ofList cs)
  let sign (x : Float) : Float := if negative then -x else x
  if word = "inf" ∨ word = "infinity" then some (sign (1.0 / 0.0))
  else if word = "nan" then some (0.0 / 0.0)
  else
    let whole := cs.takeWhile Char.isDigit
    let rest := cs.dropWhile Char.isDigit
    let (places, rest) :=
      match rest with
      | '.' :: r => (r.takeWhile Char.isDigit, r.dropWhile Char.isDigit)
      | r => ([], r)
    if whole.isEmpty && places.isEmpty then Option.none
    else
      let finish (e : Int) : Option Float :=
        let e := e - places.length
        some (sign (Float.ofScientific (natOfDigits 10 (whole ++ places)) (e < 0) e.natAbs))
      match rest with
      | [] => finish 0
      | c :: r =>
        if c = 'e' || c = 'E' then
          let (down, digits) :=
            match r with
            | '-' :: r => (true, r)
            | '+' :: r => (false, r)
            | r => (false, r)
          if digits.isEmpty || !digits.all Char.isDigit then Option.none
          else
            let n : Int := min (natOfDigits 10 digits) 100000
            finish (if down then -n else n)
        else Option.none

/-- The integer that a text writes. -/
def intOfText? (s : String) : Option Int :=
  let (negative, cs) :=
    match s.toList with
    | '-' :: cs => (true, cs)
    | '+' :: cs => (false, cs)
    | cs => (false, cs)
  if cs.isEmpty || !cs.all Char.isDigit then Option.none
  else
    let n : Int := natOfDigits 10 cs
    let i := if negative then -n else n
    if -Value.intBound ≤ i ∧ i < Value.intBound then some i else Option.none

/-- The integer part of a floating point number. -/
def intOfReal (x : Float) : Int :=
  if x.isNaN then 0
  else if x.isInf then (if x < 0.0 then -Value.intBound else Value.intBound - 1)
  else
    let b := Decimal.Binary.ofFloat x
    let r := b.magnitude
    let n : Int := r.num / r.den
    if b.negative then -n else n

/-- The value at a path of attributes and positions. -/
def atPath (v : Value) (path : String) : Value :=
  let parts := splitText ['.'] (path.length + 1) path.length path.toList
  parts.foldl
    (fun v part =>
      let name := String.ofList part
      let key := if part.all Char.isDigit && !part.isEmpty
        then Value.int (natOfDigits 10 part) else .text name
      (v.item? key).getD .undefined)
    v

/-- The order of values in a sorted list; texts are compared without their case unless asked. -/
def sortOrder (caseSensitive : Bool) (a b : Value) : Ordering :=
  match a, b with
  | .str s _, .str t _ =>
    if caseSensitive then Value.compareTexts s t
    else Value.compareTexts (lowerText s) (lowerText t)
  | _, _ => Value.order a b

/-- Sort by an order; equal items keep their places. -/
def sortItems {α : Type} (order : α → α → Ordering) (xs : List α) : List α :=
  xs.mergeSort fun a b => order a b != .gt

/-- Keep the first of all items that agree. -/
def keepFirst (key : Value → Value) (seen : List Value) : List Value → List Value
  | [] => []
  | x :: xs =>
    if seen.any fun y => Value.order y (key x) == .eq then keepFirst key seen xs
    else x :: keepFirst key (key x :: seen) xs

/-- Gather neighbours that agree. -/
def groups (key : Value → Value) (order : Value → Value → Ordering) (xs : List Value) :
    List Value :=
  (xs.splitBy fun a b => order (key a) (key b) == .eq).map fun g =>
    match g with
    | x :: _ => .group (key x) g
    | [] => .seq []

/-- The items of a value that must have items. -/
def itemsOf (v : Value) : Except Fault (List Value) :=
  match v.items? with
  | some xs => .ok xs
  | Option.none => .error .invalidOperation

/-- Decide a test by its name. -/
def applyTest (names : List String) (name : String) (v : Value) (args : List Value) :
    Except Fault Bool := do
  let none (b : Bool) : Except Fault Bool := Arguments.none args b
  let one (f : Value → Except Fault Bool) : Except Fault Bool :=
    match args with
    | [] => .error .missingArgument
    | [a] => f a
    | _ => .error .tooManyArguments
  let compared (p : Ordering → Bool) := one fun a => .ok (p (Value.order v a))
  match name with
  | "undefined" => none (v.kind == .undefined)
  | "defined" => none (v.kind != .undefined)
  | "none" => none (v.kind == .none)
  | "safe" | "escaped" =>
    none (match v with
      | .str _ safe => safe
      | _ => false)
  | "boolean" => none (v.kind == .bool)
  | "odd" => none ((v.toInt?.map fun i => i % 2 != 0).getD false)
  | "even" => none ((v.toInt?.map fun i => i % 2 == 0).getD false)
  | "divisibleby" =>
    one fun a =>
      match Value.coerce? v a with
      | some (.ints i j) => .ok (j != 0 && i % j == 0)
      | some (.reals x y) => .ok (Value.remainder x y == 0.0)
      | _ => .ok false
  | "number" => none (v.kind == .number)
  | "integer" | "int" =>
    none (match v with
      | .int _ => true
      | _ => false)
  | "float" =>
    none (match v with
      | .real _ => true
      | _ => false)
  | "string" => none (v.kind == .string)
  | "sequence" => none (v.kind == .seq)
  | "iterable" => none v.items?.isSome
  | "mapping" => none (v.kind == .map)
  | "startingwith" =>
    one fun a => do
      let s ← Arguments.text v
      let t ← Arguments.text a
      return t.toList.isPrefixOf s.toList
  | "endingwith" =>
    one fun a => do
      let s ← Arguments.text v
      let t ← Arguments.text a
      return t.toList.isSuffixOf s.toList
  | "lower" => do
    let s ← Arguments.exactText v
    none (s.toList.all fun c => Text.upperChars c != [c])
  | "upper" => do
    let s ← Arguments.exactText v
    none (s.toList.all fun c => Text.lowerChar c != c)
  | "sameas" => one fun a => .ok (v.kind == a.kind && Value.eqv v a)
  | "eq" | "equalto" | "==" => one fun a => .ok (Value.eqv v a)
  | "ne" | "!=" => one fun a => .ok (!Value.eqv v a)
  | "lt" | "lessthan" | "<" => compared (· == .lt)
  | "le" | "<=" => compared (· != .gt)
  | "gt" | "greaterthan" | ">" => compared (· == .gt)
  | "ge" | ">=" => compared (· != .lt)
  | "in" =>
    one fun a =>
      match Value.contains? a v with
      | some b => .ok b
      | Option.none => .error .invalidOperation
  | "true" => none (match v with
      | .bool b => b
      | _ => false)
  | "false" => none (match v with
      | .bool b => !b
      | _ => false)
  | "filter" => do
    let s ← Arguments.text v
    none (names.contains s)
  | "test" => do
    let s ← Arguments.text v
    none (["undefined", "defined", "none", "safe", "escaped", "boolean", "odd", "even",
      "divisibleby", "number", "integer", "int", "float", "string", "sequence", "iterable",
      "mapping", "startingwith", "endingwith", "lower", "upper", "sameas", "eq", "equalto", "==",
      "ne", "!=", "lt", "lessthan", "<", "le", "<=", "gt", "greaterthan", ">", "ge", ">=", "in",
      "true", "false", "filter", "test"].contains s)
  | _ => .error .unknownTest

/-- The names of all filters. -/
def filterNames : List String :=
  ["safe", "escape", "e", "lower", "upper", "title", "capitalize", "replace", "length", "count",
    "dictsort", "items", "reverse", "trim", "join", "split", "lines", "default", "d", "round",
    "abs", "int", "float", "attr", "first", "last", "min", "max", "sort", "list", "string", "bool",
    "batch", "slice", "sum", "indent", "select", "reject", "selectattr", "rejectattr", "map",
    "groupby", "unique", "chain", "zip", "pprint", "human_size"]

/-- Keep the items for which a test has a result; without a test, whether they are true. -/
def selectBy (wanted : Bool) (member : Option String) (args : List Value) (xs : List Value) :
    Except Fault Value := do
  let subject (x : Value) : Value :=
    match member with
    | some a => atPath x a
    | Option.none => x
  let kept ← xs.filterM fun x =>
    match args with
    | [] => .ok ((subject x).isTrue == wanted)
    | test :: rest => do
      let name ← Arguments.text test
      return (← applyTest filterNames name (subject x) rest) == wanted
  return .seq kept

/-- Filters that work on one value without looking at other filters. -/
def applySimpleFilter (name : String) (v : Value) (args : List Value) : Except Fault Value := do
  let none (r : Except Fault Value) : Except Fault Value := do
    let _ ← Arguments.atMost 0 args
    r
  let (pos, named) := Arguments.split args
  match name with
  | "safe" => none do return .str (← Arguments.text v) true
  | "escape" | "e" =>
    none (.ok (match v with
      | .str s true => .str s true
      | v => .str v.markup true))
  | "lower" => none do return .text (lowerText (← Arguments.text v))
  | "upper" => none do return .text (upperText (← Arguments.text v))
  | "title" => none do return .text (String.ofList (titleFrom true (← Arguments.text v).toList))
  | "capitalize" =>
    none do
      match (← Arguments.text v).toList with
      | [] => return .text ""
      | c :: cs => return .text (String.ofList (Text.upperChars c ++ lowerFrom [] cs))
  | "replace" => do
    Arguments.between 2 2 args
    let s ← Arguments.text v
    let pat ← Arguments.text (args.getD 0 .undefined)
    let new ← Arguments.text (args.getD 1 .undefined)
    return .text (replaceText pat new s)
  | "length" | "count" =>
    none (match v.length? with
      | some n => .ok (.int n)
      | Option.none => .error .invalidOperation)
  | "dictsort" => do
    Arguments.atMost 0 pos
    let byValue := (← Arguments.namedOptional Arguments.text named "by") == some "value"
    let caseSensitive := (← Arguments.namedOptional Arguments.truth named "case_sensitive").getD false
    let backwards := (← Arguments.namedOptional Arguments.truth named "reverse").getD false
    Arguments.known ["by", "case_sensitive", "reverse"] named
    match v with
    | .map es | .named es =>
      let key (e : Value × Value) := if byValue then e.2 else e.1
      let sorted := sortItems (fun a b => sortOrder caseSensitive (key a) (key b)) es
      let sorted := if backwards then sorted.reverse else sorted
      return .seq (sorted.map fun (k, w) => .seq [k, w])
    | _ => .error .invalidOperation
  | "items" =>
    none (match v with
      | .map es | .named es => .ok (.iter (es.map fun (k, w) => .seq [k, w]) true)
      | _ => .error .invalidOperation)
  | "reverse" =>
    none (match v with
      | .undefined | .none => .ok v
      | .str s _ => .ok (.text (String.ofList s.toList.reverse))
      | .seq xs => .ok (.iter xs.reverse true)
      | .iter xs sized => .ok (.iter xs.reverse sized)
      | .map es => .ok (.iter (es.map Prod.fst).reverse true)
      | _ => .error .invalidOperation)
  | "trim" => do
    Arguments.atMost 1 args
    let s ← Arguments.text v
    match ← Arguments.optional Arguments.text args[0]? with
    | some cs => return .text (String.ofList (Text.trimList cs.toList.contains s.toList))
    | Option.none => return .text (Text.trim s)
  | "join" => do
    Arguments.atMost 1 args
    let sep := (← Arguments.optional Arguments.text args[0]?).getD ""
    match v.kind with
    | .undefined | .none => return .text ""
    | .string | .seq | .iterable =>
      let xs ← itemsOf v
      return .text (xs.foldl (fun s x => (if s.isEmpty then s else s ++ sep) ++ x.print) "")
    | _ => .error .invalidOperation
  | "split" => do
    Arguments.atMost 2 args
    let cs := (← Arguments.text v).toList
    let sep ← Arguments.optional Arguments.text args[0]?
    let limit := ((← Arguments.optional (Arguments.integer (-Int.pow 2 63) (Int.pow 2 63 - 1)) args[1]?).bind
      fun i => if 0 ≤ i then some i.toNat else Option.none)
    let parts :=
      match sep, limit with
      | some "", Option.none => [[]] ++ cs.map ([·]) ++ [[]]
      | some sep, limit => splitText sep.toList (cs.length + 1) (limit.getD cs.length) cs
      | Option.none, some n => splitWords (n + 1) cs
      | Option.none, Option.none => words cs
    return .iter (parts.map fun p => .text (String.ofList p)) false
  | "lines" => none do return .seq ((lines (← Arguments.text v)).map .text)
  | "default" | "d" => do
    Arguments.atMost 2 args
    let other := (args[0]?).getD (.text "")
    let lax := (← Arguments.optional Arguments.truth args[1]?).getD false
    return if v.kind == .undefined || (lax && !v.isTrue) then other else v
  | "round" => do
    Arguments.atMost 1 args
    let places := (← Arguments.optional (Arguments.integer (-Int.pow 2 31) (Int.pow 2 31 - 1)) args[0]?).getD 0
    match v with
    | .int i => return .int i
    | .real x =>
      let scale := Float.pow 10.0 (Float.ofInt places)
      return .real ((scale * x).round / scale)
    | _ => .error .invalidOperation
  | "abs" =>
    none (match v with
      | .int i => .ok (.int i.natAbs)
      | .real x => .ok (.real x.abs)
      | _ => .error .invalidOperation)
  | "int" =>
    none (match v with
      | .undefined | .none => .ok (.int 0)
      | .bool b => .ok (.int (if b then 1 else 0))
      | .int i => .ok (.int i)
      | .real x => .ok (.int (intOfReal x))
      | .str s _ =>
        match intOfText? s with
        | some i => .ok (.int i)
        | Option.none =>
          match realOfText? s with
          | some x => .ok (.int (intOfReal x))
          | Option.none => .error .invalidOperation
      | _ => .error .invalidOperation)
  | "float" =>
    none (match v with
      | .undefined | .none => .ok (.real 0.0)
      | .str s _ =>
        match realOfText? s with
        | some x => .ok (.real x)
        | Option.none => .error .invalidOperation
      | v =>
        match v.toReal? with
        | some x => .ok (.real x)
        | Option.none => .error .invalidOperation)
  | "attr" => do
    Arguments.between 1 1 args
    return (v.item? (args.getD 0 .undefined)).getD .undefined
  | "first" =>
    none (match v with
      | .str s _ => .ok (((Value.chars s).head?).getD .undefined)
      | .seq _ | .iter .. | .map _ | .named _ => do return ((← itemsOf v).head?).getD .undefined
      | _ => .error .invalidOperation)
  | "last" =>
    none (match v with
      | .str s _ => .ok (((Value.chars s).getLast?).getD .undefined)
      | .seq _ | .iter .. | .map _ | .named _ => do return ((← itemsOf v).getLast?).getD .undefined
      | _ => .error .invalidOperation)
  | "min" =>
    none do
      match ← itemsOf v with
      | [] => return .undefined
      | x :: xs => return xs.foldl (fun m y => if Value.order y m == .lt then y else m) x
  | "max" =>
    none do
      match ← itemsOf v with
      | [] => return .undefined
      | x :: xs => return xs.foldl (fun m y => if Value.order y m != .lt then y else m) x
  | "sort" => do
    Arguments.atMost 0 pos
    let xs ← itemsOf v
    let caseSensitive := (← Arguments.namedOptional Arguments.truth named "case_sensitive").getD false
    let member ← Arguments.namedOptional Arguments.exactText named "attribute"
    let backwards := (← Arguments.namedOptional Arguments.truth named "reverse").getD false
    Arguments.known ["case_sensitive", "attribute", "reverse"] named
    let key (x : Value) : Value := (member.map (atPath x)).getD x
    let sorted := sortItems (fun a b => sortOrder caseSensitive (key a) (key b)) xs
    return .seq (if backwards then sorted.reverse else sorted)
  | "list" => none do return .seq (← itemsOf v)
  | "string" =>
    none (.ok (match v with
      | .str s safe => .str s safe
      | v => .text v.print))
  | "bool" => none (.ok (.bool v.isTrue))
  | "batch" => do
    Arguments.between 1 2 args
    let xs ← itemsOf v
    let n ← Arguments.size (args.getD 0 .undefined)
    if n = 0 then .error .invalidOperation
    else return .seq (batches n (← Arguments.optional .ok args[1]?) xs.length xs)
  | "slice" => do
    Arguments.between 1 2 args
    let n ← Arguments.size (args.getD 0 .undefined)
    if n = 0 then .error .invalidOperation
    else
      let xs ← itemsOf v
      let fill ← Arguments.optional .ok args[1]?
      return .seq (columns (xs.length / n) (xs.length % n) fill n 0 xs)
  | "sum" => none do (← itemsOf v).foldlM Value.add (.int 0)
  | "indent" => do
    Arguments.between 1 3 args
    let s ← Arguments.text v
    let width ← Arguments.size (args.getD 0 .undefined)
    let first := (← Arguments.optional Arguments.truth args[1]?).getD false
    let blank := (← Arguments.optional Arguments.truth args[2]?).getD false
    return .text (indent width first blank s)
  | "select" => do selectBy true Option.none args (← itemsOf v)
  | "reject" => do selectBy false Option.none args (← itemsOf v)
  | "selectattr" | "rejectattr" => do
    match args with
    | [] => .error .missingArgument
    | a :: rest => selectBy (name == "selectattr") (some (← Arguments.text a)) rest (← itemsOf v)
  | "groupby" => do
    let member ←
      match pos with
      | [] => Arguments.namedOptional Arguments.text named "attribute"
      | [a] => some <$> Arguments.text a
      | _ => .error .tooManyArguments
    let fallback ← Arguments.namedOptional .ok named "default"
    let caseSensitive := (← Arguments.namedOptional Arguments.truth named "case_sensitive").getD false
    Arguments.known ["attribute", "default", "case_sensitive"] named
    match member with
    | Option.none => .error .missingArgument
    | some path =>
      let key (x : Value) : Value :=
        match atPath x path with
        | .undefined => fallback.getD .undefined
        | k => k
      let order := sortOrder caseSensitive
      let sorted := sortItems (fun a b => order (key a) (key b)) (← itemsOf v)
      return .seq (groups key order sorted)
  | "unique" => do
    Arguments.atMost 0 pos
    let member ← Arguments.namedOptional Arguments.exactText named "attribute"
    let caseSensitive := (← Arguments.namedOptional Arguments.truth named "case_sensitive").getD false
    Arguments.known ["attribute", "case_sensitive"] named
    let key (x : Value) : Value :=
      match (member.map (atPath x)).getD x with
      | .str s safe => .str (if caseSensitive then s else lowerText s) safe
      | k => k
    return .seq (keepFirst key [] (← itemsOf v))
  | "chain" => do
    let lists ← (v :: args).mapM itemsOf
    return .iter lists.flatten true
  | "zip" => do
    let lists ← (v :: args).mapM itemsOf
    let n := (lists.map List.length).foldl min ((lists.headD []).length)
    return .iter ((List.range n).map fun i => .seq (lists.map fun l => l.getD i .undefined)) true
  | "pprint" => none (.ok (.text v.inner))
  | "human_size" =>
    none do return .text (HumanSize.format (← Arguments.integer (-Int.pow 2 63) (Int.pow 2 63 - 1) v))
  | _ => .error .unknownFilter

/-- Apply a filter by its name.  A filter over items may name another filter; each such step uses
up an argument. -/
def applyFilterUpTo : Nat → String → Value → List Value → Except Fault Value
  | 0, name, v, args => applySimpleFilter name v args
  | fuel + 1, name, v, args =>
    if name = "map" then do
      let (pos, named) := Arguments.split args
      let xs ← itemsOf v
      match ← Arguments.namedOptional Arguments.text named "attribute" with
      | some path =>
        if !pos.isEmpty then .error .tooManyArguments
        else
          let fallback ← Arguments.namedOptional .ok named "default"
          Arguments.known ["attribute", "default"] named
          return .seq (xs.map fun x =>
            match atPath x path with
            | .undefined => fallback.getD .undefined
            | w => w)
      | none =>
        match args with
        | [] => .error .invalidOperation
        | f :: rest => do
          let filter ← Arguments.text f
          return .seq (← xs.mapM fun x => applyFilterUpTo fuel filter x rest)
    else applySimpleFilter name v args

/-- Apply a filter by its name. -/
def applyFilter (name : String) (v : Value) (args : List Value) : Except Fault Value :=
  applyFilterUpTo (args.length + 1) name v args

end ObjectGateway.Template
