import ObjectGateway.Text.Percent
import ObjectGateway.Yaml.Node
import ObjectGateway.Yaml.Scalar

/-!
# Layout and tokens

The tokens of a YAML text.  Indentation is made explicit: a block opens where a line is indented
more than the block around it and closes where a line is indented less.  A key is recognised only
when its colon is read, so a token that may begin a key is remembered together with its place, and
the key's tokens are put there afterwards.
-/

namespace ObjectGateway.Yaml

/-- A token of a text. -/
inductive Token
  | versionDirective (major minor : Nat)
  | tagDirective (handle target : String)
  | documentStart
  | documentEnd
  | blockSequenceStart
  | blockMappingStart
  | blockEnd
  | flowSequenceStart
  | flowSequenceEnd
  | flowMappingStart
  | flowMappingEnd
  | blockEntry
  | flowEntry
  | key
  | value
  | alias (name : String)
  | anchor (name : String)
  | tag (handle suffix : String)
  | scalar (style : Style) (text : String)
  | streamEnd
  deriving DecidableEq, Inhabited

/-- A place where a key may have begun. -/
structure KeyStart where
  /-- Whether a key has to begin there. -/
  required : Bool
  /-- How many tokens lie before. -/
  number : Nat
  line : Nat
  column : Nat
  offset : Nat

/-- A key without a question mark is at most this long. -/
def keyLimit : Nat := 1024

/-- The tokens read so far and the blocks that are open. -/
structure Layout where
  cursor : Cursor
  /-- The tokens, last first. -/
  tokens : List Token
  count : Nat
  /-- The indentation of the innermost block plus one; zero outside of all blocks. -/
  indent : Nat
  /-- The indentations of the blocks around it, innermost first. -/
  outer : List Nat
  /-- How many brackets are open. -/
  depth : Nat
  /-- Whether a key may begin at the next token. -/
  keyAllowed : Bool
  /-- Where a key may have begun, for each open bracket and outside of all, innermost first. -/
  keys : List (Option KeyStart)
  /-- Whether the text has been read to its end. -/
  finished : Bool

namespace Layout

/-- The layout before anything has been read. -/
def start (cs : List Char) : Layout :=
  ⟨.start cs, [], 0, 0, [], 0, true, [none], false⟩

/-- Whether the next token stands outside of all brackets. -/
def inBlock (s : Layout) : Bool := s.depth == 0

/-- Append a token. -/
def push (t : Token) (s : Layout) : Layout :=
  { s with tokens := t :: s.tokens, count := s.count + 1 }

/-- Put a token where `number` tokens lie before it. -/
def pushAt (number : Nat) (t : Token) (s : Layout) : Layout :=
  { s with tokens := s.tokens.insertIdx (s.count - number) t, count := s.count + 1 }

/-- Step over some characters and append a token. -/
def take (n : Nat) (t : Token) (s : Layout) : Layout :=
  { s with cursor := s.cursor.advance n }.push t

/-- Open a block at a column, unless one as deep is open; its token is put at `number`. -/
def openBlock (column number : Nat) (t : Token) (s : Layout) : Layout :=
  if s.inBlock && s.indent < column + 1 then
    { s with outer := s.indent :: s.outer, indent := column + 1 }.pushAt number t
  else s

/-- Close blocks from the inside out while they are indented by `limit` or more. -/
def closeFrom (limit : Nat) : List Nat → Layout → Layout
  | [], s => s
  | i :: outer, s =>
    if limit < s.indent then
      closeFrom limit outer ({ s with indent := i, outer := outer }.push .blockEnd)
    else s

/-- Close every block that is indented more than a column; `limit` is the column plus one. -/
def closeBlocks (limit : Nat) (s : Layout) : Layout :=
  if s.inBlock then closeFrom limit s.outer s else s

/-- Forget where a key may have begun; fails if one had to begin there. -/
def dropKey (s : Layout) : Option Layout :=
  match s.keys with
  | some k :: rest => if k.required then none else some { s with keys := none :: rest }
  | _ => some s

/-- Remember that a key may begin at the next token. -/
def markKey (s : Layout) : Option Layout :=
  if s.keyAllowed then do
    let required := s.inBlock && s.indent == s.cursor.column + 1
    let k : KeyStart :=
      ⟨required, s.count, s.cursor.line, s.cursor.column, s.cursor.offset⟩
    let s ← s.dropKey
    some { s with keys := some k :: s.keys.drop 1 }
  else some s

/-- Forget the places whose line has ended or which lie too far back; fails if a key had to begin
at one of them. -/
def dropStaleKeys (s : Layout) : Option Layout := do
  let keys ← s.keys.mapM fun key =>
    match key with
    | some k =>
      if k.line < s.cursor.line || k.offset + keyLimit < s.cursor.offset then
        if k.required then none else some none
      else some (some k)
    | none => some none
  some { s with keys := keys }

/-- Skip blanks, comments and line breaks. -/
def skipGaps (s : Layout) : Layout :=
  let c := s.cursor.skipWhile fun x => x == ' ' || (x == '\t' && (!s.inBlock || !s.keyAllowed))
  let c := if c.peek? = some '#' then c.skipWhile (!isBreak ·) else c
  match c.rest with
  | [] => { s with cursor := c }
  | x :: _ =>
    if isBreak x then
      let next := { s with cursor := c.next, keyAllowed := s.keyAllowed || s.inBlock }
      if next.cursor.rest.length < s.cursor.rest.length then next.skipGaps else next
    else { s with cursor := c }
termination_by s.cursor.rest.length

/-- End the text. -/
def finish (s : Layout) : Option Layout := do
  let s ← (s.closeBlocks 0).dropKey
  some { s.push .streamEnd with keyAllowed := false, finished := true }

/-- Skip blanks and a comment to the end of the line. -/
def endLine (c : Cursor) : Option Cursor :=
  let c := c.skipWhile isBlank
  let c := if c.peek? = some '#' then c.skipWhile (!isBreak ·) else c
  if c.isAt isBreak 0 then some c.next else none

/-- Whether a character may stand in a tag. -/
def isTagChar (verbatim : Bool) (c : Char) : Bool :=
  isNameChar c || ";/?:@&=+$.!~*'()%".toList.contains c ||
    (verbatim && (c == ',' || c == '[' || c == ']'))

/-- The text of a tag, with its escapes replaced. -/
def tagText (cs : List Char) : Option String :=
  Text.Utf8.decode? (Text.Percent.decode (Text.Utf8.encodeList cs))

/-- Read the characters of a tag. -/
def tagChars (verbatim : Bool) (c : Cursor) : Option (String × Cursor) := do
  let t ← tagText (c.rest.takeWhile (isTagChar verbatim))
  some (t, c.skipWhile (isTagChar verbatim))

/-- Read a decimal number of at most nine digits. -/
def versionNumber (c : Cursor) : Option (Nat × Cursor) :=
  let ds := c.rest.takeWhile Char.isDigit
  if ds.isEmpty || 9 < ds.length then none
  else (digits? 10 ds).map fun n => (n, c.skipWhile Char.isDigit)

/-- Read a handle: a word between exclamation marks, or one or two of them. -/
def tagHandle (c : Cursor) : Option (String × Cursor) :=
  match c.rest with
  | '!' :: rest =>
    let word := rest.takeWhile isNameChar
    let c := c.next.advance word.length
    if c.peek? = some '!' then some (String.ofList ('!' :: word ++ ['!']), c.next)
    else if word.isEmpty then some ("!", c)
    else none
  | _ => none

/-- Read a directive. -/
def directive (s : Layout) : Option Layout := do
  let s ← (s.closeBlocks 0).dropKey
  let c := s.cursor.next
  let name := String.ofList (c.rest.takeWhile isNameChar)
  let c := c.skipWhile isNameChar
  if !c.isAt isGap 0 then none
  else
    let (t, c) ←
      if name == "YAML" then do
        let (major, c) ← versionNumber (c.skipWhile isBlank)
        if c.peek? = some '.' then
          let (minor, c) ← versionNumber c.next
          some (Token.versionDirective major minor, c)
        else none
      else if name == "TAG" then do
        let (handle, c) ← tagHandle (c.skipWhile isBlank)
        if !c.isAt isBlank 0 then none
        else
          let (target, c) ← tagChars true (c.skipWhile isBlank)
          if target.isEmpty || !c.isAt isGap 0 then none
          else some (Token.tagDirective handle target, c)
      else none
    let c ← endLine c
    some ({ s with cursor := c, keyAllowed := false }.push t)

/-- Read a mark between documents. -/
def documentMark (t : Token) (s : Layout) : Option Layout := do
  let s ← (s.closeBlocks 0).dropKey
  some { s.take 3 t with keyAllowed := false }

/-- Read an opening bracket. -/
def openFlow (t : Token) (s : Layout) : Option Layout := do
  let s ← s.markKey
  some { s.take 1 t with depth := s.depth + 1, keys := none :: s.keys, keyAllowed := true }

/-- Read a closing bracket. -/
def closeFlow (t : Token) (s : Layout) : Option Layout := do
  let s ← s.dropKey
  let s := if s.depth = 0 then s else { s with depth := s.depth - 1, keys := s.keys.drop 1 }
  some { s.take 1 t with keyAllowed := false }

/-- Read a comma. -/
def flowEntry (s : Layout) : Option Layout := do
  let s ← s.dropKey
  some { s.take 1 .flowEntry with keyAllowed := true }

/-- Read a hyphen. -/
def blockEntry (s : Layout) : Option Layout := do
  if s.inBlock && !s.keyAllowed then none
  else
    let s ← (s.openBlock s.cursor.column s.count .blockSequenceStart).dropKey
    some { s.take 1 .blockEntry with keyAllowed := true }

/-- Read a question mark. -/
def explicitKey (s : Layout) : Option Layout := do
  if s.inBlock && !s.keyAllowed then none
  else
    let s ← (s.openBlock s.cursor.column s.count .blockMappingStart).dropKey
    some { s.take 1 .key with keyAllowed := s.inBlock }

/-- Read a colon; a key that may have begun before it has begun. -/
def value (s : Layout) : Option Layout :=
  match s.keys with
  | some k :: rest =>
    let s := (s.pushAt k.number .key).openBlock k.column k.number .blockMappingStart
    some { s.take 1 .value with keys := none :: rest, keyAllowed := false }
  | _ =>
    if s.inBlock && !s.keyAllowed then none
    else
      let s := s.openBlock s.cursor.column s.count .blockMappingStart
      some { s.take 1 .value with keyAllowed := s.inBlock }

/-- Read the name of an anchor or of a reference to one. -/
def named (t : String → Token) (s : Layout) : Option Layout := do
  let s ← s.markKey
  let c := s.cursor.next
  let name := c.rest.takeWhile isNameChar
  let c := c.advance name.length
  if name.isEmpty || !c.isAt (fun x => isGap x || "?:,]\x7d%@".toList.contains x || x.toNat == 0x60) 0
  then none
  else some ({ s with cursor := c, keyAllowed := false }.push (t (String.ofList name)))

/-- Read a tag: the handle and the rest of it. -/
def readTag (c : Cursor) : Option (Token × Cursor) :=
  match c.rest with
  | '!' :: '<' :: _ => do
    let (t, c) ← tagChars true (c.advance 2)
    if t.isEmpty then none
    else if c.peek? = some '>' then some (.tag "" t, c.next) else none
  | _ =>
    let word := c.next.rest.takeWhile isNameChar
    let afterWord := c.next.advance word.length
    if afterWord.peek? = some '!' then do
      let (t, c) ← tagChars false afterWord.next
      if t.isEmpty then none else some (.tag (String.ofList ('!' :: word ++ ['!'])) t, c)
    else do
      let (t, c) ← tagChars false c.next
      some (if t.isEmpty then .tag "" "!" else .tag "!" t, c)

/-- Read a tag. -/
def tag (s : Layout) : Option Layout := do
  let s ← s.markKey
  let (t, c) ← readTag s.cursor
  if c.isAt isGap 0 || (!s.inBlock && c.peek? = some ',') then
    some ({ s with cursor := c, keyAllowed := false }.push t)
  else none

/-- Take over a scalar. -/
def pushScalar (style : Style) (r : ScalarRead) (s : Layout) : Layout :=
  { s with cursor := s.cursor.advanceTo r.rest }.push (.scalar style r.text)

/-- Read a block scalar. -/
def blockScalar (folded : Bool) (s : Layout) : Option Layout := do
  let s ← s.dropKey
  let r ← readBlock folded s.indent (s.cursor.rest.drop 1)
  some { s.pushScalar (if folded then .quoted else .literal) r with keyAllowed := true }

/-- Read a scalar between quotes. -/
def quotedScalar (read : List Char → Option ScalarRead) (s : Layout) : Option Layout := do
  let s ← s.markKey
  let r ← read (s.cursor.rest.drop 1)
  some { s.pushScalar .quoted r with keyAllowed := false }

/-- Read a scalar without quotes. -/
def plainScalar (s : Layout) : Option Layout := do
  let s ← s.markKey
  let r ← readPlain (!s.inBlock) s.indent [] .none s.cursor.column s.cursor.rest
  some { s.pushScalar .plain r with keyAllowed := r.endsLine }

/-- Whether a character has a meaning of its own where a token begins. -/
def isIndicator (c : Char) : Bool :=
  "-?:,[]\x7b\x7d#&*!|>\x27\"%@".toList.contains c || c.toNat == 0x60

/-- Read the next token. -/
def step (s : Layout) : Option Layout := do
  let s ← s.skipGaps.dropStaleKeys
  let s := s.closeBlocks (s.cursor.column + 1)
  match s.cursor.rest with
  | [] => s.finish
  | c :: rest =>
    let gapFollows := rest.head?.elim true isGap
    let blankFollows := rest.head?.elim false isBlank
    if s.cursor.column = 0 && c == '%' then s.directive
    else if s.cursor.column = 0 && startsMark '-' (c :: rest) then s.documentMark .documentStart
    else if s.cursor.column = 0 && startsMark '.' (c :: rest) then s.documentMark .documentEnd
    else if c == '[' then s.openFlow .flowSequenceStart
    else if c == '{' then s.openFlow .flowMappingStart
    else if c == ']' then s.closeFlow .flowSequenceEnd
    else if c == '}' then s.closeFlow .flowMappingEnd
    else if c == ',' then s.flowEntry
    else if c == '-' && gapFollows then s.blockEntry
    else if c == '?' && (!s.inBlock || gapFollows) then s.explicitKey
    else if c == ':' && (!s.inBlock || gapFollows) then s.value
    else if c == '*' then s.named .alias
    else if c == '&' then s.named .anchor
    else if c == '!' then s.tag
    else if c == '|' && s.inBlock then s.blockScalar false
    else if c == '>' && s.inBlock then s.blockScalar true
    else if c == '\'' then s.quotedScalar (readSingleQuoted [] .none 1)
    else if c == '"' then s.quotedScalar (readDoubleQuoted .text [] .none 1)
    else if (!isGap c && !isIndicator c) || (c == '-' && !blankFollows) ||
        (s.inBlock && (c == '?' || c == ':') && !gapFollows) then s.plainScalar
    else none

/-- Read tokens to the end of the text. -/
def run (s : Layout) : Option Layout :=
  if s.finished then some s
  else
    match s.step with
    | none => none
    | some next =>
      if next.finished then some next
      else if next.cursor.rest.length < s.cursor.rest.length then next.run else none
termination_by s.cursor.rest.length

end Layout

/-- The tokens of a text. -/
def tokens? (s : String) : Option (List Token) :=
  let cs := s.toList
  let cs := if cs.head? = some (Char.ofNat 0xFEFF) then cs.drop 1 else cs
  if cs.all isAllowed then
    (Layout.start (unifyBreaks cs)).run.map (·.tokens.reverse)
  else none

end ObjectGateway.Yaml
