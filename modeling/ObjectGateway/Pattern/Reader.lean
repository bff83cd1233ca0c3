import ObjectGateway.Pattern.Tree
import ObjectGateway.Text.Blank
import ObjectGateway.Text.Property
import ObjectGateway.Text.Script
import ObjectGateway.Text.Split

/-!
# Reading patterns

The written form of regular expressions.  A reader takes characters from the front of the text and
keeps the flags that are in force, the number of groups and their names.  It has one way to fail:
the text is no pattern.
-/

namespace ObjectGateway.Pattern

/-- The flags that change the meaning of what follows. -/
structure Flags where
  ignoreCase : Bool
  multiLine : Bool
  dotAll : Bool
  lazyFirst : Bool
  unicode : Bool
  verbose : Bool
  linePairs : Bool
  deriving Repr, DecidableEq

/-- The flags at the start of a pattern. -/
def Flags.initial : Flags := ⟨false, false, false, false, true, false, false⟩

/-- What is left to read, and what is known so far. -/
structure ReaderState where
  rest : List Char
  flags : Flags
  groups : Nat
  names : List (String × Nat)

/-- Takes characters from the front of a text, or fails. -/
abbrev Reader (α : Type) := StateT ReaderState Option α

namespace Reader

/-- The next character, which is not taken. -/
def peek : Reader (Option Char) := do
  return (← get).rest.head?

/-- Take the next character. -/
def next : Reader Char := do
  let s ← get
  match s.rest with
  | [] => failure
  | c :: cs => set { s with rest := cs }; return c

/-- Take the given character if it comes next. -/
def skip (c : Char) : Reader Bool := do
  let s ← get
  match s.rest with
  | d :: cs => if d = c then set { s with rest := cs }; return true else return false
  | [] => return false

/-- Take the given character. -/
def expect (c : Char) : Reader Unit := do
  if ← skip c then return () else failure

/-- Take the given text if it comes next. -/
def skipText (t : String) : Reader Bool := do
  let s ← get
  if t.toList.isPrefixOf s.rest then
    set { s with rest := s.rest.drop t.length }
    return true
  else return false

/-- Take the characters of a class. -/
def takeWhile (p : Char → Bool) : Reader (List Char) := do
  let s ← get
  set { s with rest := s.rest.dropWhile p }
  return s.rest.takeWhile p

/-- Drop blanks and comments from a text. -/
def dropComments : Nat → List Char → List Char
  | 0, cs => cs
  | fuel + 1, cs =>
    match cs.dropWhile Text.isBlank with
    | '#' :: rest => dropComments fuel (rest.dropWhile (· ≠ '\n'))
    | rest => rest

/-- Skip blanks and comments where they have no meaning. -/
def skipSpace : Reader Unit := do
  let s ← get
  if s.flags.verbose then set { s with rest := dropComments (s.rest.length + 1) s.rest }

/-- A number in decimal digits, with blanks around it. -/
def decimalNumber : Reader Nat := do
  discard (takeWhile Text.isBlank)
  let ds ← takeWhile Char.isDigit
  if ds.isEmpty then failure
  discard (takeWhile Text.isBlank)
  skipSpace
  let n := ds.foldl (fun n c => n * 10 + (c.toNat - '0'.toNat)) 0
  if n < Nat.pow 2 32 then return n else failure

/-- The character with a number. -/
def scalar (n : Nat) : Reader Char :=
  if n.isValidChar then return Char.ofNat n else failure

/-- Hexadecimal digits, a fixed number of them or any number between braces. -/
def hexScalar (digits : Nat) : Reader Char := do
  if ← skip '{' then
    let ds ← takeWhile (· ≠ '}')
    expect '}'
    if ds.isEmpty || !ds.all Text.isHexDigit then failure
    scalar (Text.hexNumber ds)
  else
    let s ← get
    let ds := s.rest.take digits
    if ds.length < digits || !ds.all Text.isHexDigit then failure
    set { s with rest := s.rest.drop digits }
    scalar (Text.hexNumber ds)

/-- The decimal digits of ASCII. -/
def asciiDigits : CharClass := .range 0x30 0x39

/-- The blanks of ASCII. -/
def asciiBlanks : CharClass := .union (.range 9 13) (.range 0x20 0x20)

/-- The word characters of ASCII. -/
def asciiWord : CharClass :=
  .union (.union (.range 0x30 0x39) (.range 0x41 0x5A)) (.union (.range 0x5F 0x5F) (.range 0x61 0x7A))

/-- The blanks of Unicode. -/
def unicodeBlanks : CharClass :=
  .tables [.read "9-d 20 85 a0 1680 2000-200a 2028-2029 202f 205f 3000"]

/-- The word characters of Unicode. -/
def unicodeWord : CharClass :=
  .tables (.read "30-39 41-5a 5f 61-7a" ::
    (Text.letterTables ++ Text.markTables ++
      [Text.Category.decimal, Text.Category.letterNumber, Text.Category.connector,
        Text.wordExtras]))

/-- The decimal digits, blanks or word characters that a letter stands for. -/
def letterClass? (unicode : Bool) (c : Char) : Option CharClass :=
  match c.toLower with
  | 'd' => some (if unicode then .tables [Text.Category.decimal] else asciiDigits)
  | 's' => some (if unicode then unicodeBlanks else asciiBlanks)
  | 'w' => some (if unicode then unicodeWord else asciiWord)
  | _ => none

/-- The name of a property without its marks and without `is` in front. -/
def plainName (s : String) : String :=
  let named := match (Text.asciiLower s).toList with
    | 'i' :: 's' :: rest => rest
    | cs => cs
  String.ofList (named.filter fun c => c.toNat < 0x80 && c != ' ' && c != '_' && c != '-')

/-- Categories that are unions of others, and the long names of categories. -/
def categoryNames : List (String × List String) :=
  [("l", ["Lu", "Ll", "Lt", "Lm", "Lo"]), ("letter", ["Lu", "Ll", "Lt", "Lm", "Lo"]),
    ("lc", ["Lu", "Ll", "Lt"]), ("casedletter", ["Lu", "Ll", "Lt"]),
    ("m", ["Mn", "Mc", "Me"]), ("mark", ["Mn", "Mc", "Me"]), ("combiningmark", ["Mn", "Mc", "Me"]),
    ("n", ["Nd", "Nl", "No"]), ("number", ["Nd", "Nl", "No"]),
    ("p", ["Pc", "Pd", "Ps", "Pe", "Pi", "Pf", "Po"]),
    ("punctuation", ["Pc", "Pd", "Ps", "Pe", "Pi", "Pf", "Po"]),
    ("punct", ["Pc", "Pd", "Ps", "Pe", "Pi", "Pf", "Po"]),
    ("s", ["Sm", "Sc", "Sk", "So"]), ("symbol", ["Sm", "Sc", "Sk", "So"]),
    ("z", ["Zs", "Zl", "Zp"]), ("separator", ["Zs", "Zl", "Zp"]),
    ("c", ["Cc", "Cf", "Co", "Cn"]), ("other", ["Cc", "Cf", "Co", "Cn"]),
    ("uppercaseletter", ["Lu"]), ("lowercaseletter", ["Ll"]), ("titlecaseletter", ["Lt"]),
    ("modifierletter", ["Lm"]), ("otherletter", ["Lo"]), ("nonspacingmark", ["Mn"]),
    ("spacingmark", ["Mc"]), ("enclosingmark", ["Me"]), ("decimalnumber", ["Nd"]),
    ("digit", ["Nd"]), ("letternumber", ["Nl"]), ("othernumber", ["No"]),
    ("connectorpunctuation", ["Pc"]), ("dashpunctuation", ["Pd"]), ("openpunctuation", ["Ps"]),
    ("closepunctuation", ["Pe"]), ("initialpunctuation", ["Pi"]), ("finalpunctuation", ["Pf"]),
    ("otherpunctuation", ["Po"]), ("mathsymbol", ["Sm"]), ("currencysymbol", ["Sc"]),
    ("modifiersymbol", ["Sk"]), ("othersymbol", ["So"]), ("spaceseparator", ["Zs"]),
    ("lineseparator", ["Zl"]), ("paragraphseparator", ["Zp"]), ("control", ["Cc"]),
    ("cntrl", ["Cc"]), ("format", ["Cf"]), ("privateuse", ["Co"]), ("unassigned", ["Cn"])]

/-- The tables of a category. -/
def category? (name : String) : Option (List Text.RangeTable) :=
  let byName := Text.Category.byName
  match categoryNames.lookup name with
  | some parts => some (parts.filterMap fun p => byName.lookup p)
  | none => (byName.find? fun (n, _) => plainName n == name).map fun (_, t) => [t]

/-- The table of a script. -/
def script? (name : String) : Option (List Text.RangeTable) :=
  let long := (Text.Script.shortNames.lookup name).getD name
  (Text.Script.byName.find? fun (n, _) => plainName n == long).map fun (_, t) => [t]

/-- The class of a property that is named without a value. -/
def property? (name : String) : Option CharClass :=
  match name with
  | "any" => some (.range 0 0x10FFFF)
  | "ascii" => some (.range 0 0x7F)
  | "assigned" => some (.compl (.tables [Text.Category.unassigned]))
  | "alphabetic" | "alpha" => some (.tables [Text.Script.alphabetic])
  | "lowercase" | "lower" => some (.tables [Text.Script.lowercase])
  | "uppercase" | "upper" => some (.tables [Text.Script.uppercase])
  | "whitespace" | "wspace" | "space" => some unicodeBlanks
  | "emoji" => some (.tables [Text.Script.emoji])
  | _ =>
    match category? name with
    | some ts => some (.tables ts)
    | none => (script? name).map .tables

/-- The class of a property with a value. -/
def propertyValue? (property value : String) : Option CharClass :=
  match property with
  | "generalcategory" | "gc" =>
    match value with
    | "any" | "ascii" | "assigned" => property? value
    | _ => (category? value).map .tables
  | "script" | "sc" | "scriptextensions" | "scx" => (script? value).map .tables
  | _ => none

/-- The class that a property names, after the letter that announces it. -/
def propertyClass (negated : Bool) : Reader CharClass := do
  let name ←
    if ← skip '{' then do
      let name ← takeWhile (· ≠ '}')
      expect '}'
      pure name
    else do
      let c ← next
      pure [c]
  if !(← get).flags.unicode then failure
  let plain (cs : List Char) := plainName (String.ofList cs)
  let found : Option (CharClass × Bool) :=
    match Text.splitOnce '=' name, Text.splitOnce ':' name with
    | some (p, v), _ =>
      if p.getLast? = some '!' then
        (propertyValue? (plain p.dropLast) (plain v)).map (·, !negated)
      else (propertyValue? (plain p) (plain v)).map (·, negated)
    | none, some (p, v) => (propertyValue? (plain p) (plain v)).map (·, negated)
    | none, none => (property? (plain name)).map (·, negated)
  match found with
  | none => failure
  | some (c, negated) =>
    let c := if (← get).flags.ignoreCase then .folded c else c
    return if negated then .compl c else c

/-- The characters of ASCII. -/
def ascii : CharClass := .range 0 0x7F

/-- A class, or all other characters.  Without Unicode a class must stay within ASCII. -/
def complementIf (negated : Bool) (c : CharClass) : Reader CharClass := do
  if !negated then return c
  else if (← get).flags.unicode then return .compl c
  else failure

/-- A class with the case variants of its characters where case is ignored.  Without Unicode only
the letters of ASCII have variants. -/
def foldCase (c : CharClass) : Reader CharClass := do
  let f := (← get).flags
  if !f.ignoreCase then return c
  else if f.unicode then return .folded c
  else return .union c (.inter (.folded (.inter c ascii)) ascii)

/-- A character that may stand in brackets. -/
def memberChar (c : Char) : Reader Char := do
  if (← get).flags.unicode || c.toNat < 0x80 then return c else failure

/-- What an escape stands for. -/
inductive Escaped
  | char (c : Char)
  | cls (c : CharClass)
  | anchor (a : Anchor)

/-- The class of word characters that is in force. -/
def wordClass : Reader CharClass := do
  return if (← get).flags.unicode then unicodeWord else asciiWord

/-- The condition that a name in braces adds to a word boundary. -/
def namedBoundary : Reader (Option Anchor) := do
  let w ← wordClass
  if ← skipText "{start}" then return some (.wordStart w)
  else if ← skipText "{end}" then return some (.wordEnd w)
  else if ← skipText "{start-half}" then return some (.wordStartHalf w)
  else if ← skipText "{end-half}" then return some (.wordEndHalf w)
  else return none

/-- What follows a backslash. -/
def escaped : Reader Escaped := do
  let c ← next
  match c with
  | 'x' => do
    let braced := (← peek) == some '{'
    let c ← hexScalar 2
    if braced || (← get).flags.unicode || c.toNat < 0x80 then return .char c else failure
  | 'u' => .char <$> hexScalar 4
  | 'U' => .char <$> hexScalar 8
  | 'p' => .cls <$> propertyClass false
  | 'P' => .cls <$> propertyClass true
  | 'a' => return .char (Char.ofNat 7)
  | 'f' => return .char (Char.ofNat 12)
  | 't' => return .char '\t'
  | 'n' => return .char '\n'
  | 'r' => return .char '\r'
  | 'v' => return .char (Char.ofNat 11)
  | 'A' => return .anchor .textStart
  | 'z' => return .anchor .textEnd
  | 'b' => do
    match ← namedBoundary with
    | some a => return .anchor a
    | none => return .anchor (.boundary (← wordClass))
  | 'B' => return .anchor (.notBoundary (← wordClass))
  | '<' => return .anchor (.wordStart (← wordClass))
  | '>' => return .anchor (.wordEnd (← wordClass))
  | c =>
    match letterClass? (← get).flags.unicode c with
    | some cls => .cls <$> complementIf c.isUpper cls
    | none =>
      if 0x20 ≤ c.toNat && c.toNat < 0x7F && !c.isAlphanum then return .char c else failure

/-- The classes with names between colons. -/
def namedClasses : List (String × CharClass) :=
  let alnum : CharClass := .union (.range 0x30 0x39) (.union (.range 0x41 0x5A) (.range 0x61 0x7A))
  [("alnum", alnum), ("alpha", .union (.range 0x41 0x5A) (.range 0x61 0x7A)),
    ("ascii", .range 0 0x7F), ("blank", .union (.range 9 9) (.range 0x20 0x20)),
    ("cntrl", .union (.range 0 0x1F) (.range 0x7F 0x7F)), ("digit", .range 0x30 0x39),
    ("graph", .range 0x21 0x7E), ("lower", .range 0x61 0x7A), ("print", .range 0x20 0x7E),
    ("punct", .diff (.range 0x21 0x7E) alnum), ("space", asciiBlanks),
    ("upper", .range 0x41 0x5A), ("word", asciiWord),
    ("xdigit", .union (.range 0x30 0x39) (.union (.range 0x41 0x46) (.range 0x61 0x66)))]

/-- A class with a name between colons, if one comes next. -/
def namedClass : Reader (Option CharClass) := do
  let s ← get
  match s.rest with
  | '[' :: ':' :: rest =>
    let (negated, rest) := match rest with
      | '^' :: r => (true, r)
      | r => (false, r)
    let name := rest.takeWhile (· ≠ ':')
    match rest.dropWhile (· ≠ ':') with
    | ':' :: ']' :: after =>
      match namedClasses.lookup (String.ofList name) with
      | some c =>
        set { s with rest := after }
        some <$> complementIf negated c
      | none => return none
    | _ => return none
  | _ => return none

/-- One end of a range in brackets. -/
def classItem : Reader Escaped := do
  let c ← next
  let item ← if c = '\\' then escaped else pure (.char c)
  match item with
  | .char c => .char <$> memberChar c
  | other => return other

/-- The operators between classes in brackets. -/
inductive ClassOp
  | inter
  | diff
  | symDiff

/-- Apply an operator between classes. -/
def ClassOp.apply (op : ClassOp) (l r : CharClass) : Reader CharClass := do
  let l ← foldCase l
  let r ← foldCase r
  match op with
  | inter => return .inter l r
  | diff => return .diff l r
  | symDiff => return .symDiff l r

/-- The operator that comes next. -/
def classOp : Reader (Option ClassOp) := do
  if ← skipText "&&" then return some .inter
  else if ← skipText "--" then return some .diff
  else if ← skipText "~~" then return some .symDiff
  else return none

/-- Take the hyphens that open a class, each a member of it. -/
def leadingHyphens : Nat → CharClass → Reader CharClass
  | 0, c => return c
  | fuel + 1, c => do
    if ← skip '-' then
      skipSpace
      leadingHyphens fuel (.union c (.single '-'))
    else return c

mutual

/-- A class in brackets, after the opening one. -/
def bracketed : Nat → Reader CharClass
  | 0 => failure
  | fuel + 1 => do
    skipSpace
    let negated ← skip '^'
    skipSpace
    let start ← leadingHyphens fuel .empty
    let first ← do
      match start, ← peek with
      | .tables [], some ']' =>
        discard next
        pure (CharClass.union start (.single ']'))
      | c, _ => pure c
    let c ← bracketItems fuel none first
    complementIf negated (← foldCase c)

/-- The items up to the closing bracket.  `pending` holds what stands before the last operator. -/
def bracketItems : Nat → Option (CharClass × ClassOp) → CharClass → Reader CharClass
  | 0, _, _ => failure
  | fuel + 1, pending, c => do
    skipSpace
    let complete (c : CharClass) : Reader CharClass := do
      match pending with
      | none => return c
      | some (l, op) => op.apply l c
    if ← skip ']' then complete c
    else
      match ← namedClass with
      | some n => bracketItems fuel pending (.union c n)
      | none =>
        if ← skip '[' then
          let inner ← bracketed fuel
          bracketItems fuel pending (.union c inner)
        else
          match ← classOp with
          | some op => do bracketItems fuel (some (← complete c, op)) .empty
          | none =>
            match ← classItem with
            | .cls k => bracketItems fuel pending (.union c k)
            | .anchor _ => failure
            | .char low => do
              skipSpace
              let s ← get
              match s.rest with
              | '-' :: '-' :: _ => bracketItems fuel pending (.union c (.single low))
              | '-' :: rest =>
                let after := if s.flags.verbose then dropComments (rest.length + 1) rest else rest
                if after.head? = some ']' then
                  bracketItems fuel pending (.union c (.single low))
                else
                  set { s with rest := after }
                  match ← classItem with
                  | .char high =>
                    if low.toNat ≤ high.toNat then
                      bracketItems fuel pending (.union c (.range low.toNat high.toNat))
                    else failure
                  | _ => failure
              | _ => bracketItems fuel pending (.union c (.single low))

end

/-- The pattern of one character. -/
def charPattern (c : Char) : Reader Pattern := do
  .one <$> foldCase (.single c)

/-- Whether a character may begin the name of a group. -/
def isGroupNameStart (c : Char) : Bool :=
  c == '_' || (if c.toNat < 0x80 then c.isAlpha else Text.Script.alphabetic.contains c.toNat)

/-- Whether a character may continue the name of a group. -/
def isGroupNameChar (c : Char) : Bool :=
  isGroupNameStart c || Text.isAlphanumeric c || c == '.' || c == '[' || c == ']'

/-- The name of a group, with its closing bracket. -/
def groupName : Reader String := do
  let name ← takeWhile isGroupNameChar
  expect '>'
  match name with
  | [] => failure
  | c :: _ => if isGroupNameStart c then return String.ofList name else failure

/-- Set one flag. -/
def setFlag (value : Bool) (c : Char) (f : Flags) : Option Flags :=
  match c with
  | 'i' => some { f with ignoreCase := value }
  | 'm' => some { f with multiLine := value }
  | 's' => some { f with dotAll := value }
  | 'U' => some { f with lazyFirst := value }
  | 'u' => some { f with unicode := value }
  | 'x' => some { f with verbose := value }
  | 'R' => some { f with linePairs := value }
  | _ => none

/-- The flags of a group, and whether they end it.  No flag may be given twice. -/
def groupFlags : Nat → Bool → List Char → Flags → Reader (Flags × Bool)
  | 0, _, _, _ => failure
  | fuel + 1, negated, seen, f => do
    match ← next with
    | ')' => if seen.isEmpty || seen.head? = some '-' then failure else return (f, true)
    | ':' => if seen.head? = some '-' then failure else return (f, false)
    | '-' => if negated then failure else groupFlags fuel true ('-' :: seen) f
    | c =>
      if seen.contains c then failure
      else
        match setFlag (!negated) c f with
        | some f => groupFlags fuel negated (c :: seen) f
        | none => failure

/-- How often something is repeated. -/
def counts : Reader (Nat × Option Nat) := do
  skipSpace
  let low ← decimalNumber
  skipSpace
  if ← skip ',' then
    skipSpace
    if (← peek) = some '}' then
      expect '}'
      return (low, none)
    else
      let high ← decimalNumber
      skipSpace
      expect '}'
      if low ≤ high then return (low, some high) else failure
  else
    expect '}'
    return (low, some low)

mutual

/-- Alternatives, up to a closing parenthesis or the end. -/
def alternatives : Nat → Reader Pattern
  | 0 => failure
  | fuel + 1 => do
    let l ← sequence fuel .empty
    if ← skip '|' then return .alt l (← alternatives fuel) else return l

/-- Parts after each other. -/
def sequence : Nat → Pattern → Reader Pattern
  | 0, _ => failure
  | fuel + 1, before => do
    skipSpace
    match ← peek with
    | none | some ')' | some '|' => return before
    | some _ =>
      match ← atom fuel with
      | none => sequence fuel before
      | some p => do
        let p ← repetitions fuel p
        sequence fuel (match before with
          | .empty => p
          | b => .seq b p)

/-- The repetitions that follow a part. -/
def repetitions : Nat → Pattern → Reader Pattern
  | 0, _ => failure
  | fuel + 1, p => do
    skipSpace
    let apply (low : Nat) (high : Option Nat) : Reader Pattern := do
      let lazily ← skip '?'
      let greedy := lazily == (← get).flags.lazyFirst
      repetitions fuel (mkRepeated p low high greedy)
    match ← peek with
    | some '*' => discard next; apply 0 none
    | some '+' => discard next; apply 1 none
    | some '?' => discard next; apply 0 (some 1)
    | some '{' => do
      discard next
      let (low, high) ← counts
      skipSpace
      apply low high
    | _ => return p

/-- A part that can be repeated; a change of flags is none. -/
def atom : Nat → Reader (Option Pattern)
  | 0 => failure
  | fuel + 1 => do
    match ← next with
    | '(' => group fuel
    | '[' => return some (.one (← bracketed fuel))
    | '.' =>
      let f := (← get).flags
      if !f.unicode then failure
      let excluded : CharClass :=
        if f.linePairs then .union (.single '\n') (.single '\r') else .single '\n'
      return some (.one (if f.dotAll then .range 0 0x10FFFF else .compl excluded))
    | '^' =>
      let f := (← get).flags
      return some (.place (if !f.multiLine then .textStart
        else if f.linePairs then .lineStartPair else .lineStart))
    | '$' =>
      let f := (← get).flags
      return some (.place (if !f.multiLine then .textEnd
        else if f.linePairs then .lineEndPair else .lineEnd))
    | '\\' =>
      match ← escaped with
      | .char c => some <$> charPattern c
      | .cls c => return some (.one c)
      | .anchor a => return some (.place a)
    | c =>
      if ['*', '+', '?', '{'].contains c then failure else some <$> charPattern c

/-- A group, after its opening parenthesis. -/
def group : Nat → Reader (Option Pattern)
  | 0 => failure
  | fuel + 1 => do
    let outer := (← get).flags
    let inner : Reader Pattern := do
      let p ← alternatives fuel
      expect ')'
      modify fun s => { s with flags := outer }
      return p
    let numbered (name : Option String) : Reader (Option Pattern) := do
      let s ← get
      let index := s.groups + 1
      match name with
      | some n =>
        if (s.names.lookup n).isSome then failure
        set { s with groups := index, names := s.names ++ [(n, index)] }
      | none => set { s with groups := index }
      return some (.group index (← inner))
    skipSpace
    if (← skipText "?=") || (← skipText "?!") || (← skipText "?<=") || (← skipText "?<!") then
      failure
    else if (← skipText "?P<") || (← skipText "?<") then
      numbered (some (← groupName))
    else if ← skip '?' then
      let (flags, ends) ← groupFlags fuel false [] outer
      modify fun s => { s with flags := flags }
      if ends then return none else some <$> inner
    else numbered none

end

end Reader

/-- A pattern with the names of its groups. -/
structure Compiled where
  tree : Pattern
  names : List (String × Nat)

/-- Read a pattern. -/
def read? (source : String) : Option Compiled := do
  let cs := source.toList
  let (p, s) ← Reader.alternatives (6 * cs.length + 12) ⟨cs, .initial, 0, []⟩
  if s.rest.isEmpty then some ⟨p, s.names⟩ else none

end ObjectGateway.Pattern
