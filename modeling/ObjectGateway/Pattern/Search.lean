import ObjectGateway.Pattern.Reader

/-!
# Searching for patterns

A pattern becomes a program whose threads walk the text together, one character at a time, in the
order in which alternatives are preferred.  No two threads stand at the same instruction, so a
search takes no longer than the text times the program.  The leftmost match is the match at the
first place that has one.
-/

namespace ObjectGateway.Pattern

/-- One instruction of a program. -/
inductive Instr
  | one (c : CharClass) (next : Nat)
  | check (a : Anchor) (next : Nat)
  /-- The first way is preferred. -/
  | split (first second : Nat)
  | save (slot next : Nat)
  | accept

/-- A program; instructions refer to each other by position. -/
abbrev Program := Array Instr

/-- Add an instruction and tell its position. -/
def Program.add (p : Program) (i : Instr) : Program × Nat :=
  (p.push i, p.size)

/-- A choice between going on and leaving. -/
def choose (greedy : Bool) (more done : Nat) : Instr :=
  if greedy then .split more done else .split done more

/-- Put `n` copies of a program before an instruction. -/
def copies (compile : Nat → Program → Program × Nat) : Nat → Nat → Program → Program × Nat
  | 0, next, p => (p, next)
  | n + 1, next, p =>
    let (p, start) := copies compile n next p
    compile start p

/-- Put at most `n` copies of a program before an instruction. -/
def optionalCopies (compile : Nat → Program → Program × Nat) (greedy : Bool) (done : Nat) :
    Nat → Program → Program × Nat
  | 0, p => (p, done)
  | n + 1, p =>
    let (p, start) := optionalCopies compile greedy done n p
    let (p, more) := compile start p
    p.add (choose greedy more done)

/-- Put a program that is repeated without end before an instruction; it is entered at its start. -/
def loopOnce (compile : Nat → Program → Program × Nat) (greedy : Bool) (done : Nat)
    (p : Program) : Program × Nat :=
  let (p, again) := Program.add p .accept
  let (p, start) := compile again p
  (p.setIfInBounds again (choose greedy start done), start)

/-- Put the program of a pattern before the instruction `next`, and tell where it starts. -/
def compile : Pattern → Nat → Program → Program × Nat
  | .empty, next, p => (p, next)
  | .one c, next, p => p.add (.one c next)
  | .place a, next, p => p.add (.check a next)
  | .group i q, next, p =>
    let (p, close) := p.add (.save (2 * i + 1) next)
    let (p, start) := compile q close p
    p.add (.save (2 * i) start)
  | .seq l r, next, p =>
    let (p, middle) := compile r next p
    compile l middle p
  | .alt l r, next, p =>
    let (p, second) := compile r next p
    let (p, first) := compile l next p
    p.add (.split first second)
  | .repeated q low (some high) greedy, next, p =>
    let (p, start) := optionalCopies (compile q) greedy next (high - low) p
    copies (compile q) low start p
  | .repeated q low none greedy, next, p =>
    if low = 0 then
      let (p, start) := loopOnce (compile q) greedy next p
      p.add (choose greedy start next)
    else
      let (p, start) := loopOnce (compile q) greedy next p
      copies (compile q) (low - 1) start p

/-- The program of a whole pattern and its first instruction. -/
def Program.of (p : Pattern) : Program × Nat :=
  let (prog, accept) := Program.add #[] .accept
  compile p accept prog

/-- What a thread remembers: the places where groups begin and end. -/
abbrev Slots := Array (Option Nat)

/-- A thread stands at an instruction. -/
structure Thread where
  pc : Nat
  slots : Slots

/-- Threads that are being gathered, last first, and the instructions that have been visited. -/
structure Gathering where
  visited : Array Bool
  threads : List Thread

/-- A place in a text: its offset and the characters around it. -/
structure Place where
  offset : Nat
  before : Option Char
  after : Option Char

/-- Follow the instructions that take no character. -/
def follow (prog : Program) (place : Place) : Nat → Nat → Slots → Gathering → Gathering
  | 0, _, _, g => g
  | fuel + 1, pc, slots, g =>
    if (g.visited[pc]?).getD true then g
    else
      let g := { g with visited := g.visited.setIfInBounds pc true }
      match prog[pc]? with
      | some (.split first second) =>
        follow prog place fuel second slots (follow prog place fuel first slots g)
      | some (.save slot next) =>
        follow prog place fuel next (slots.setIfInBounds slot (some place.offset)) g
      | some (.check a next) =>
        if a.holds place.before place.after then follow prog place fuel next slots g else g
      | some _ => { g with threads := ⟨pc, slots⟩ :: g.threads }
      | none => g

/-- No threads. -/
def Gathering.start (prog : Program) : Gathering :=
  ⟨Array.replicate prog.size false, []⟩

/-- Let threads take a character, in order.  A thread that accepts ends those after it. -/
def takeChar (prog : Program) (c : Option Char) (place : Place) :
    List Thread → Gathering → Option Slots → Gathering × Option Slots
  | [], g, best => (g, best)
  | t :: ts, g, best =>
    match prog[t.pc]?, c with
    | some .accept, _ => (g, some t.slots)
    | some (.one cls next), some c =>
      if cls.contains c then
        takeChar prog (some c) place ts (follow prog place (prog.size + 1) next t.slots g) best
      else takeChar prog (some c) place ts g best
    | _, c => takeChar prog c place ts g best

/-- Walk the text with threads until none is left. -/
def walk (prog : Program) : List Char → Nat → List Thread → Option Slots → Option Slots
  | [], offset, threads, best =>
    (takeChar prog none ⟨offset, none, none⟩ threads (.start prog) best).2
  | c :: cs, offset, threads, best =>
    let place : Place := ⟨offset + 1, some c, cs.head?⟩
    match takeChar prog (some c) place threads (.start prog) best with
    | (⟨_, []⟩, best) => best
    | (⟨_, next⟩, best) => walk prog cs (offset + 1) next.reverse best

/-- The preferred match that begins at a place. -/
def matchAt (prog : Program) (entry groups : Nat) (offset : Nat) (before : Option Char)
    (cs : List Char) : Option Slots :=
  let place : Place := ⟨offset, before, cs.head?⟩
  let slots := Array.replicate (2 * groups) none
  let g := follow prog place (prog.size + 1) entry slots (.start prog)
  walk prog cs offset g.threads.reverse none

/-- The match at the first place, from here on, that has one. -/
def firstMatch (at? : Nat → Option Char → List Char → Option Slots) :
    Nat → Option Char → List Char → Option Slots
  | offset, before, [] => at? offset before []
  | offset, before, c :: cs =>
    match at? offset before (c :: cs) with
    | some s => some s
    | none => firstMatch at? (offset + 1) (some c) cs

/-- The number of groups, the whole match included. -/
def Compiled.groupCount (p : Compiled) : Nat :=
  p.tree.lastGroup + 1

/-- The texts that the groups of the leftmost match hold, the whole match first. -/
def Compiled.search (p : Compiled) (text : List Char) : Option (List (Option (List Char))) :=
  let (prog, entry) := Program.of (.group 0 p.tree)
  let groups := p.groupCount
  (firstMatch (matchAt prog entry groups) 0 none text).map fun slots =>
    (List.range groups).map fun i =>
      match (slots[2 * i]?).join, (slots[2 * i + 1]?).join with
      | some a, some b => some ((text.drop a).take (b - a))
      | _, _ => none

end ObjectGateway.Pattern
