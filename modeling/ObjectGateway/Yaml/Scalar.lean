import ObjectGateway.Text.RangeTable
import ObjectGateway.Yaml.Cursor

/-!
# Written scalars

The text of a scalar without quotes, between quotes, and as a block.  Where a scalar goes on in a
later line, one line break counts as a space and more than one stand for all but the first.
-/

namespace ObjectGateway.Yaml

/-- The blanks and line breaks between two words of a scalar. -/
structure Gap where
  /-- The blanks before the first line break. -/
  blanks : List Char
  /-- The line breaks that count. -/
  breaks : List Char
  /-- Whether the line was joined to the next by an escaped line break. -/
  joined : Bool

namespace Gap

/-- No gap at all. -/
def none : Gap := ⟨[], [], false⟩

/-- Whether the gap reaches into a later line. -/
def spansLines (g : Gap) : Bool := g.joined || !g.breaks.isEmpty

/-- Whether nothing was skipped. -/
def isNone (g : Gap) : Bool := g.blanks.isEmpty && !g.spansLines

/-- Lengthen a gap by a blank; blanks that begin a line do not count. -/
def pushBlank (g : Gap) (c : Char) : Gap :=
  if g.spansLines then g else { g with blanks := g.blanks ++ [c] }

/-- Lengthen a gap by a line break. -/
def pushBreak (g : Gap) (c : Char) : Gap :=
  { g with blanks := [], breaks := g.breaks ++ [c] }

/-- What a gap stands for. -/
def text (g : Gap) : List Char :=
  if g.joined then g.breaks
  else
    match g.breaks with
    | [] => g.blanks
    | ['\n'] => [' ']
    | '\n' :: more => more
    | breaks => breaks

end Gap

/-- The text of a scalar, what follows it, and whether a line ended inside of or after it. -/
structure ScalarRead where
  text : String
  rest : List Char
  endsLine : Bool

/-- Whether a character ends a plain scalar inside of brackets. -/
def isFlowMark (c : Char) : Bool :=
  c == ',' || c == '[' || c == ']' || c == '{' || c == '}'

/-- Read a plain scalar.  Outside of brackets, it goes on only in lines that are indented by at
least `indent`.  The column is that of the next character; the text is held in reverse. -/
def readPlain (inFlow : Bool) (indent : Nat) (out : List Char) (gap : Gap) (column : Nat) :
    List Char → Option ScalarRead
  | [] => some ⟨String.ofList out.reverse, [], gap.spansLines⟩
  | c :: rest =>
    let finish := some ⟨String.ofList out.reverse, c :: rest, gap.spansLines⟩
    if isBreak c then readPlain inFlow indent out (gap.pushBreak c) 0 rest
    else if isBlank c then
      if gap.spansLines && column < indent && c == '\t' then none
      else readPlain inFlow indent out (gap.pushBlank c) (column + 1) rest
    else if gap.spansLines && !inFlow && column < indent then finish
    else if column == 0 && startsDocumentMark (c :: rest) then finish
    else if c == '#' && !gap.isNone then finish
    else if inFlow && c == ':' && (rest.head?.elim false fun d => isFlowMark d || d == '?') then none
    else if c == ':' && (rest.head?.elim true isGap) then finish
    else if inFlow && isFlowMark c then finish
    else readPlain inFlow indent (c :: gap.text.reverse ++ out) .none (column + 1) rest

/-- Read what follows a single quote. -/
def readSingleQuoted (out : List Char) (gap : Gap) (column : Nat) :
    List Char → Option ScalarRead
  | [] => none
  | '\'' :: '\'' :: rest =>
    readSingleQuoted ('\'' :: gap.text.reverse ++ out) .none (column + 2) rest
  | c :: rest =>
    if isBreak c then readSingleQuoted out (gap.pushBreak c) 0 rest
    else if isBlank c then readSingleQuoted out (gap.pushBlank c) (column + 1) rest
    else if column == 0 && startsDocumentMark (c :: rest) then none
    else if c == '\'' then some ⟨String.ofList (gap.text.reverse ++ out).reverse, rest, false⟩
    else readSingleQuoted (c :: gap.text.reverse ++ out) .none (column + 1) rest

/-- What the character after a backslash begins. -/
inductive Escape
  /-- One character. -/
  | char (c : Char)
  /-- A code point of so many hexadecimal digits. -/
  | code (digits : Nat)

/-- The escape that a character begins. -/
def Escape.of? (c : Char) : Option Escape :=
  match c with
  | '0' => some (.char (Char.ofNat 0))
  | 'a' => some (.char (Char.ofNat 7))
  | 'b' => some (.char (Char.ofNat 8))
  | 't' | '\t' => some (.char '\t')
  | 'n' => some (.char '\n')
  | 'v' => some (.char (Char.ofNat 11))
  | 'f' => some (.char (Char.ofNat 12))
  | 'r' => some (.char '\r')
  | 'e' => some (.char (Char.ofNat 27))
  | ' ' => some (.char ' ')
  | '"' => some (.char '"')
  | '/' => some (.char '/')
  | '\\' => some (.char '\\')
  | 'N' => some (.char (Char.ofNat 0x85))
  | '_' => some (.char (Char.ofNat 0xA0))
  | 'L' => some (.char (Char.ofNat 0x2028))
  | 'P' => some (.char (Char.ofNat 0x2029))
  | 'x' => some (.code 2)
  | 'u' => some (.code 4)
  | 'U' => some (.code 8)
  | _ => none

/-- Where the reader of a double-quoted scalar is. -/
inductive QuotedState
  /-- Between characters. -/
  | text
  /-- After a backslash. -/
  | escape
  /-- Inside of a code point: the digits that are still owed, and the value so far. -/
  | code (owed value : Nat)

/-- Read what follows a double quote. -/
def readDoubleQuoted (state : QuotedState) (out : List Char) (gap : Gap) (column : Nat) :
    List Char → Option ScalarRead
  | [] => none
  | c :: rest =>
    match state with
    | .code owed value =>
      if Text.isHexDigit c then
        let value := value * 16 + Text.hexValue c
        if owed ≤ 1 then
          if value.isValidChar then
            readDoubleQuoted .text (Char.ofNat value :: out) .none (column + 1) rest
          else none
        else readDoubleQuoted (.code (owed - 1) value) out .none (column + 1) rest
      else none
    | .escape =>
      if isBreak c then readDoubleQuoted .text out ⟨[], [], true⟩ 0 rest
      else
        match Escape.of? c with
        | some (.char x) => readDoubleQuoted .text (x :: out) .none (column + 1) rest
        | some (.code n) => readDoubleQuoted (.code n 0) out .none (column + 1) rest
        | none => none
    | .text =>
      if isBreak c then readDoubleQuoted .text out (gap.pushBreak c) 0 rest
      else if isBlank c then readDoubleQuoted .text out (gap.pushBlank c) (column + 1) rest
      else if column == 0 && startsDocumentMark (c :: rest) then none
      else
        let out := gap.text.reverse ++ out
        if c == '"' then some ⟨String.ofList out.reverse, rest, false⟩
        else if c == '\\' then readDoubleQuoted .escape out .none (column + 1) rest
        else readDoubleQuoted .text (c :: out) .none (column + 1) rest

/-- What becomes of the line breaks at the end of a block scalar. -/
inductive Chomping
  /-- All are removed. -/
  | strip
  /-- One is kept. -/
  | clip
  /-- All are kept. -/
  | keep
  deriving DecidableEq

/-- The first line of a block scalar. -/
structure BlockHeader where
  chomping : Chomping
  /-- The indentation of the text relative to its parent, where it is given. -/
  increment : Option Nat
  rest : List Char

/-- Read the sign for the line breaks at the end. -/
def readChomping : List Char → Option (Chomping × List Char)
  | '+' :: rest => some (.keep, rest)
  | '-' :: rest => some (.strip, rest)
  | _ => none

/-- Read the digit for the indentation. -/
def readIncrement : List Char → Option (Nat × List Char)
  | c :: rest => if c.isDigit then some (c.toNat - '0'.toNat, rest) else none
  | [] => none

/-- Read the rest of the line in which a block scalar begins. -/
def readBlockHeader (cs : List Char) : Option BlockHeader := do
  let (chomping, increment, cs) ←
    match readChomping cs with
    | some (chomping, cs) =>
      match readIncrement cs with
      | some (n, cs) => some (chomping, some n, cs)
      | none => some (chomping, none, cs)
    | none =>
      match readIncrement cs with
      | some (n, cs) =>
        match readChomping cs with
        | some (chomping, cs) => some (chomping, some n, cs)
        | none => some (.clip, some n, cs)
      | none => some (.clip, none, cs)
  if increment = some 0 then none
  else
    let cs := cs.dropWhile isBlank
    let cs := if cs.head? = some '#' then cs.dropWhile (!isBreak ·) else cs
    match cs with
    | [] => some ⟨chomping, increment, []⟩
    | c :: rest => if isBreak c then some ⟨chomping, increment, rest⟩ else none

/-- What lies between two lines of a block scalar. -/
structure BlockGap where
  /-- The line breaks of the empty lines. -/
  breaks : List Char
  /-- The indentation of the block. -/
  indent : Nat
  /-- The column of the next character. -/
  column : Nat
  rest : List Char

/-- Skip empty lines and the indentation of the next line.  As long as the indentation is not known
it is zero, and the widest line so far decides it. -/
def skipBlockGap (least indent column widest : Nat) (breaks : List Char) :
    List Char → Option BlockGap
  | [] =>
    some ⟨breaks.reverse, if indent = 0 then max (max widest least) 1 else indent, column, []⟩
  | c :: rest =>
    let inside := indent == 0 || column < indent
    if c == ' ' && inside then
      skipBlockGap least indent (column + 1) (max widest (column + 1)) breaks rest
    else if c == '\t' && inside then none
    else if isBreak c then skipBlockGap least indent 0 widest (c :: breaks) rest
    else
      some ⟨breaks.reverse, if indent = 0 then max (max widest least) 1 else indent, column,
        c :: rest⟩

/-- What has been read of a block scalar. -/
structure BlockRead where
  /-- The lines so far, without the line break at their end. -/
  out : List Char
  /-- The line break at the end of the last line. -/
  lastBreak : List Char
  /-- Whether the last line began with a blank. -/
  blankLine : Bool
  gap : BlockGap

/-- Read one more line of a block scalar. -/
def BlockRead.step (folded : Bool) (b : BlockRead) : Option BlockRead := do
  let cs := b.gap.rest
  let startsBlank := cs.head?.elim false isBlank
  let between :=
    if folded && b.lastBreak = ['\n'] && !b.blankLine && !startsBlank then
      if b.gap.breaks.isEmpty then [' '] else b.gap.breaks
    else b.lastBreak ++ b.gap.breaks
  let line := cs.takeWhile (!isBreak ·)
  let tail := cs.dropWhile (!isBreak ·)
  let gap ← skipBlockGap 0 b.gap.indent 0 0 [] (tail.drop 1)
  some ⟨b.out ++ between ++ line, tail.take 1, startsBlank, gap⟩

/-- Read the lines of a block scalar. -/
def readBlockLines (folded : Bool) (b : BlockRead) : Option BlockRead :=
  if b.gap.column == b.gap.indent && !b.gap.rest.isEmpty then
    match b.step folded with
    | none => none
    | some next =>
      if next.gap.rest.length < b.gap.rest.length then readBlockLines folded next else some next
  else some b
termination_by b.gap.rest.length

/-- Read what follows the sign of a block scalar.  `parent` is the indentation of the block around
it, plus one. -/
def readBlock (folded : Bool) (parent : Nat) (cs : List Char) : Option ScalarRead := do
  let header ← readBlockHeader cs
  let indent := header.increment.elim 0 fun n => (parent - 1) + n
  let gap ← skipBlockGap parent indent 0 0 [] header.rest
  let b ← readBlockLines folded ⟨[], [], false, gap⟩
  let tail :=
    match header.chomping with
    | .strip => []
    | .clip => b.lastBreak
    | .keep => b.lastBreak ++ b.gap.breaks
  some ⟨String.ofList (b.out ++ tail), b.gap.rest, true⟩

end ObjectGateway.Yaml
