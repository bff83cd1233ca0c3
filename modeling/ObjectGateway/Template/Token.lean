import ObjectGateway.Text.Blank
import ObjectGateway.Text.RangeTable

/-!
# Template tokens

A template is text with three kinds of marked parts: values between double braces, statements
between braces with percent signs, and comments between braces with hash signs.  A hyphen next to
a mark removes the blanks on that side.  The tokens of a template are read in one pass over its
characters; the number of steps left bounds the pass.
-/

namespace ObjectGateway.Template

/-- Signs inside of values and statements. -/
inductive Sign
  | plus
  | minus
  | star
  | slash
  | floorSlash
  | power
  | percent
  | dot
  | comma
  | colon
  | tilde
  | assign
  | eq
  | ne
  | gt
  | ge
  | lt
  | le
  | bar
  | parenOpen
  | parenClose
  | bracketOpen
  | bracketClose
  | braceOpen
  | braceClose
  deriving Repr, DecidableEq

/-- A token of a template. -/
inductive Token
  | data (s : String)
  | valueStart
  | valueEnd
  | blockStart
  | blockEnd
  | ident (s : String)
  | str (s : String)
  | int (n : Nat)
  | real (digits : Nat) (exponent : Int)
  | sign (s : Sign)
  deriving Repr, DecidableEq

/-- Why a text has no tokens. -/
inductive TokenError
  | malformed
  | badEscape
  deriving Repr, DecidableEq

/-- Which part of a template is being read; in text, whether blanks before it are removed. -/
inductive Mode
  | text (trimStart : Bool)
  | value
  | block
  deriving Repr, DecidableEq

/-- What happens to the blanks next to a mark. -/
inductive Margin
  | plain
  | trimmed
  deriving Repr, DecidableEq

/-- Split at the first occurrence of a text. -/
def splitAtText (pat : List Char) : List Char → Option (List Char × List Char)
  | [] => if pat.isEmpty then some ([], []) else none
  | c :: cs =>
    if pat.isPrefixOf (c :: cs) then some ([], (c :: cs).drop pat.length)
    else (splitAtText pat cs).map fun (before, after) => (c :: before, after)

/-- The kinds of marked parts. -/
inductive Mark
  | value
  | block
  | comment
  deriving Repr, DecidableEq

/-- Split text at its first opening mark. -/
def splitAtMark : List Char → List Char × Option (Mark × List Char)
  | [] => ([], none)
  | '{' :: '{' :: rest => ([], some (.value, rest))
  | '{' :: '%' :: rest => ([], some (.block, rest))
  | '{' :: '#' :: rest => ([], some (.comment, rest))
  | c :: rest =>
    let (before, mark) := splitAtMark rest
    (c :: before, mark)

/-- Read the margin after an opening mark. -/
def takeMargin : List Char → Margin × List Char
  | '-' :: rest => (.trimmed, rest)
  | '+' :: rest => (.plain, rest)
  | rest => (.plain, rest)

/-- Whether a character is blank inside of values and statements. -/
def isAsciiBlank (c : Char) : Bool :=
  c == ' ' || c == '\t' || c == '\n' || c == '\r' || c.toNat == 12

/-- Skip the rest of a tag that holds one word; its closing mark may carry a margin. -/
def skipWordTag (word : String) (cs : List Char) : Option (Margin × List Char) :=
  let cs := cs.dropWhile isAsciiBlank
  if word.toList.isPrefixOf cs then
    let (margin, cs) := takeMargin ((cs.drop word.length).dropWhile isAsciiBlank)
    match cs with
    | '%' :: '}' :: rest => some (margin, rest)
    | _ => none
  else none

/-- The text up to the tag that ends a verbatim part, the margins of that tag, and the rest. -/
def splitAtEndRaw : List Char → Option (List Char × Margin × Margin × List Char)
  | [] => none
  | c :: cs =>
    let here :=
      match c, cs with
      | '{', '%' :: rest =>
        let (before, inner) := takeMargin rest
        (skipWordTag "endraw" inner).map fun (after, rest) => ([], before, after, rest)
      | _, _ => none
    match here with
    | some r => some r
    | none => (splitAtEndRaw cs).map fun (text, m) => (c :: text, m)

/-- The value of a run of digits. -/
def natOfDigits (base : Nat) (cs : List Char) : Nat :=
  cs.foldl (fun n c => n * base + Text.hexValue c) 0

/-- Where the reader of a number stands. -/
inductive NumberState
  | integer
  | fraction
  | exponent
  | exponentDigits
  deriving Repr, DecidableEq

/-- Take the characters of a decimal number. -/
def takeNumber : NumberState → List Char → List Char × NumberState × List Char
  | s, [] => ([], s, [])
  | s, c :: cs =>
    let next : Option NumberState :=
      if c = '.' then if s = .integer then some .fraction else none
      else if c = 'e' || c = 'E' then
        if s = .integer || s = .fraction then some .exponent else none
      else if c = '+' || c = '-' then if s = .exponent then some .exponentDigits else none
      else if c.isDigit then some (if s = .exponent then .exponentDigits else s)
      else if c = '_' then some s
      else none
    match next with
    | some s' =>
      let (taken, final, rest) := takeNumber s' cs
      (c :: taken, final, rest)
    | none => ([], s, c :: cs)

/-- The largest integer that may be written lies below this bound. -/
def integerBound : Nat := Nat.pow 2 128

/-- An integer token. -/
def integerToken (base : Nat) (digits : List Char) : Except TokenError Token :=
  let n := natOfDigits base digits
  if digits.isEmpty || n ≥ integerBound then .error .malformed else .ok (.int n)

/-- The token of the characters of a decimal number. -/
def numberToken (state : NumberState) (taken : List Char) : Except TokenError Token :=
  if taken.getLast? = some '_' then .error .malformed
  else
    let cs := taken.filter (· ≠ '_')
    if state = .integer then integerToken 10 cs
    else
      let mantissa := cs.takeWhile fun c => c ≠ 'e' && c ≠ 'E'
      let whole := mantissa.takeWhile (· ≠ '.')
      let places := (mantissa.dropWhile (· ≠ '.')).drop 1
      let written := (cs.dropWhile fun c => c ≠ 'e' && c ≠ 'E').drop 1
      let digits := written.dropWhile fun c => c = '+' || c = '-'
      if !written.isEmpty && digits.isEmpty || state = .exponent then .error .malformed
      else
        let n : Int := natOfDigits 10 digits
        let e : Int := if written.head? = some '-' then -n else n
        .ok (.real (natOfDigits 10 (whole ++ places)) (e - places.length))

/-- Read a number. -/
def lexNumber (cs : List Char) : Except TokenError (Token × List Char) :=
  let radix (base : Nat) (ok : Char → Bool) (rest : List Char) :=
    let taken := rest.takeWhile fun c => ok c || c = '_'
    if taken.getLast? = some '_' then .error .malformed
    else do
      .ok (← integerToken base (taken.filter (· ≠ '_')), rest.drop taken.length)
  match cs with
  | '0' :: x :: rest =>
    if x = 'x' || x = 'X' then radix 16 Text.isHexDigit rest
    else if x = 'o' || x = 'O' then radix 8 (fun c => '0' ≤ c && c ≤ '7') rest
    else if x = 'b' || x = 'B' then radix 2 (fun c => c = '0' || c = '1') rest
    else
      let (taken, state, rest) := takeNumber .integer cs
      do .ok (← numberToken state taken, rest)
  | _ =>
    let (taken, state, rest) := takeNumber .integer cs
    do .ok (← numberToken state taken, rest)

/-- Read the characters of a quoted text up to the closing quote; escapes are kept. -/
def takeQuoted (quote : Char) : List Char → Option (List Char × List Char)
  | [] => none
  | '\\' :: c :: cs => (takeQuoted quote cs).map fun (t, rest) => ('\\' :: c :: t, rest)
  | c :: cs =>
    if c = quote then some ([], cs)
    else if c = '\\' then none
    else (takeQuoted quote cs).map fun (t, rest) => (c :: t, rest)

/-- Replace the escapes of a quoted text.  `high` is the first half of a surrogate pair. -/
def unescape (high : Option Nat) : List Char → Except TokenError (List Char)
  | [] => if high.isSome then .error .badEscape else .ok []
  | '\\' :: 'u' :: a :: b :: c :: d :: cs =>
    if [a, b, c, d].all Text.isHexDigit then
      let n := natOfDigits 16 [a, b, c, d]
      match high with
      | some h =>
        if 0xDC00 ≤ n && n < 0xE000 then do
          return Char.ofNat (0x10000 + (h - 0xD800) * 1024 + (n - 0xDC00)) :: (← unescape none cs)
        else .error .badEscape
      | none =>
        if 0xD800 ≤ n && n < 0xDC00 then unescape (some n) cs
        else if 0xDC00 ≤ n && n < 0xE000 then .error .badEscape
        else do return Char.ofNat n :: (← unescape none cs)
    else .error .badEscape
  | '\\' :: c :: cs =>
    if high.isSome then .error .badEscape
    else
      let meant : Option Char :=
        if c = '"' || c = '\\' || c = '/' || c = '\'' then some c
        else if c = 'b' then some (Char.ofNat 8)
        else if c = 'f' then some (Char.ofNat 12)
        else if c = 'n' then some '\n'
        else if c = 'r' then some '\r'
        else if c = 't' then some '\t'
        else none
      match meant with
      | some m => do return m :: (← unescape none cs)
      | none => .error .badEscape
  | c :: cs => if high.isSome then .error .badEscape else do return c :: (← unescape none cs)

/-- The sign of two characters. -/
def sign2? (a b : Char) : Option Sign :=
  match a, b with
  | '/', '/' => some .floorSlash
  | '*', '*' => some .power
  | '=', '=' => some .eq
  | '!', '=' => some .ne
  | '>', '=' => some .ge
  | '<', '=' => some .le
  | _, _ => none

/-- The sign of one character. -/
def sign1? : Char → Option Sign
  | '+' => some .plus
  | '-' => some .minus
  | '*' => some .star
  | '/' => some .slash
  | '%' => some .percent
  | '.' => some .dot
  | ',' => some .comma
  | ':' => some .colon
  | '~' => some .tilde
  | '=' => some .assign
  | '>' => some .gt
  | '<' => some .lt
  | '(' => some .parenOpen
  | ')' => some .parenClose
  | '[' => some .bracketOpen
  | ']' => some .bracketClose
  | '{' => some .braceOpen
  | '}' => some .braceClose
  | '|' => some .bar
  | _ => none

/-- Whether a character may begin a name. -/
def isNameStart (c : Char) : Bool :=
  c.isAlpha || c == '_'

/-- Whether a character may continue a name. -/
def isNameChar (c : Char) : Bool :=
  c.isAlphanum || c == '_'

/-- Read one token of a value or statement. -/
def lexInner (cs : List Char) : Except TokenError (Token × List Char) :=
  match cs with
  | [] => .error .malformed
  | c :: rest =>
    let two := match rest with
      | d :: after => (sign2? c d).map fun s => (Token.sign s, after)
      | [] => none
    match two with
    | some r => .ok r
    | none =>
      match sign1? c with
      | some s => .ok (.sign s, rest)
      | none =>
        if c = '"' || c = '\'' then
          match takeQuoted c rest with
          | some (t, after) => do .ok (.str (String.ofList (← unescape none t)), after)
          | none => .error .malformed
        else if c.isDigit then lexNumber cs
        else if isNameStart c then
          .ok (.ident (String.ofList (cs.takeWhile isNameChar)), cs.dropWhile isNameChar)
        else .error .malformed

/-- The mark that closes a part, with its margin. -/
def closing? (mode : Mode) (cs : List Char) : Option (Margin × List Char) :=
  let (margin, after) := takeMargin cs
  match mode, after with
  | .value, '}' :: '}' :: rest => some (margin, rest)
  | .block, '%' :: '}' :: rest => some (margin, rest)
  | _, _ => none

/-- Text, unless there is none. -/
def dataToken (cs : List Char) (rest : List Token) : List Token :=
  if cs.isEmpty then rest else .data (String.ofList cs) :: rest

/-- Read tokens for at most a number of steps. -/
def lexFrom : Nat → Mode → List Char → Except TokenError (List Token)
  | 0, _, _ => .error .malformed
  | fuel + 1, .text trimStart, cs =>
    let cs := if trimStart then cs.dropWhile Text.isBlank else cs
    match splitAtMark cs with
    | (lead, none) => .ok (dataToken lead [])
    | (lead, some (mark, rest)) => do
      let (margin, inner) := takeMargin rest
      let lead := if margin = .trimmed then Text.dropTrailing Text.isBlank lead else lead
      dataToken lead <$>
        match mark with
        | .comment =>
          match splitAtText ['#', '}'] inner with
          | none => .error .malformed
          | some (text, after) => lexFrom fuel (.text (text.getLast? = some '-')) after
        | .value => do return .valueStart :: (← lexFrom fuel .value inner)
        | .block =>
          match skipWordTag "raw" inner with
          | none => do return .blockStart :: (← lexFrom fuel .block inner)
          | some (start, verbatim) =>
            match splitAtEndRaw verbatim with
            | none => .error .malformed
            | some (text, before, after, rest) => do
              let text := if start = .trimmed then text.dropWhile Text.isBlank else text
              let text := if before = .trimmed then Text.dropTrailing Text.isBlank text else text
              return dataToken text (← lexFrom fuel (.text (after = .trimmed)) rest)
  | fuel + 1, mode, cs =>
    let cs := cs.dropWhile isAsciiBlank
    match closing? mode cs with
    | some (margin, rest) => do
      let tail ← lexFrom fuel (.text (margin = .trimmed)) rest
      return (if mode = .value then .valueEnd else .blockEnd) :: tail
    | none =>
      match cs with
      | [] => .ok []
      | cs => do
        let (token, rest) ← lexInner cs
        return token :: (← lexFrom fuel mode rest)

/-- One line break at the end of a template is not part of it. -/
def dropFinalBreak (cs : List Char) : List Char :=
  let drop (c : Char) (cs : List Char) := if cs.getLast? = some c then cs.dropLast else cs
  drop '\r' (drop '\n' cs)

/-- The tokens of a template. -/
def Token.read (source : String) : Except TokenError (List Token) :=
  let cs := dropFinalBreak source.toList
  lexFrom (2 * cs.length + 2) (.text false) cs

end ObjectGateway.Template
