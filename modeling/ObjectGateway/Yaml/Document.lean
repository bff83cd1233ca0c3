import ObjectGateway.Yaml.Token

/-!
# Documents

The nodes of a document, read from its tokens.  Anchors name nodes that later references stand for;
a reference to a node that is still being read stands for a cycle.  A text holds one document.
-/

namespace ObjectGateway.Yaml

/-- What an anchor names. -/
structure Anchored where
  name : String
  /-- Counts the anchors. -/
  id : Nat
  node : Node

/-- The tokens still to be read and the names in force. -/
structure Pending where
  tokens : List Token
  /-- The anchors, latest first. -/
  anchors : List Anchored
  /-- Tag handles and what they stand for. -/
  handles : List (String × String)

/-- A reader of nodes. -/
abbrev Reader := StateT Pending Option

namespace Reader

/-- The next token. -/
def peek : Reader Token := do
  return (← get).tokens.headD .streamEnd

/-- Step over a token. -/
def skip : Reader Unit :=
  modify fun p => { p with tokens := p.tokens.drop 1 }

/-- Step over a given token, or fail. -/
def expect (t : Token) : Reader Unit := do
  if (← peek) = t then skip else failure

/-- The node that nothing written stands for. -/
def blank (tag : Option String) : Node := .scalar .plain tag ""

/-- Name a node that is about to be read. -/
def open? (name : Option String) : Reader Nat := do
  let p ← get
  match name with
  | some name =>
    set { p with anchors := ⟨name, p.anchors.length, .cycle⟩ :: p.anchors }
    return p.anchors.length
  | none => return p.anchors.length

/-- Complete a named node. -/
def close? (name : Option String) (id : Nat) (n : Node) : Reader Node := do
  if name.isSome then
    modify fun p => { p with
      anchors := p.anchors.map fun a => if a.id = id then { a with node := n } else a }
  return n

/-- The node that a reference stands for. -/
def resolve (name : String) : Reader Node := do
  match (← get).anchors.find? (·.name == name) with
  | some a => return a.node
  | none => failure

/-- The tag that a handle and the rest of a tag make up. -/
def resolveTag (handle suffix : String) : Reader String := do
  if handle.isEmpty then return suffix
  else
    match (← get).handles.lookup handle with
    | some target => return target ++ suffix
    | none => failure

/-- Read a tag, if there is one. -/
def tag? : Reader (Option String) := do
  match ← peek with
  | .tag handle suffix =>
    skip
    return some (← resolveTag handle suffix)
  | _ => return none

/-- Read an anchor, if there is one. -/
def anchor? : Reader (Option String) := do
  match ← peek with
  | .anchor name =>
    skip
    return some name
  | _ => return none

mutual

/-- Read a node.  `inBlock` tells whether blocks may begin here, `unindented` whether a sequence
may begin without a block of its own.  The first argument bounds the number of steps. -/
def node (inBlock unindented : Bool) : Nat → Reader Node
  | 0 => failure
  | fuel + 1 => do
    match ← peek with
    | .alias name =>
      skip
      resolve name
    | _ =>
      let early ← anchor?
      let tag ← tag?
      let name ← if early.isSome then pure early else anchor?
      let id ← open? name
      match ← peek with
      | .blockEntry =>
        if unindented then close? name id (.sequence (← unindentedItems fuel))
        else if name.isSome || tag.isSome then close? name id (blank tag)
        else failure
      | .scalar style text =>
        skip
        close? name id (.scalar style tag text)
      | .flowSequenceStart =>
        skip
        close? name id (.sequence (← flowItems true fuel))
      | .flowMappingStart =>
        skip
        close? name id (.mapping (← flowMembers true fuel))
      | .blockSequenceStart =>
        if inBlock then
          skip
          close? name id (.sequence (← blockItems fuel))
        else if name.isSome || tag.isSome then close? name id (blank tag)
        else failure
      | .blockMappingStart =>
        if inBlock then
          skip
          close? name id (.mapping (← blockMembers fuel))
        else if name.isSome || tag.isSome then close? name id (blank tag)
        else failure
      | _ =>
        if name.isSome || tag.isSome then close? name id (blank tag) else failure

/-- Read a node, unless a token of a kind that ends it comes first. -/
def nodeUnless (stops : List Token) (inBlock unindented : Bool) : Nat → Reader Node
  | 0 => failure
  | fuel + 1 => do
    if stops.contains (← peek) then return blank none
    else node inBlock unindented fuel

/-- Read the items of a block sequence and its end. -/
def blockItems : Nat → Reader (List Node)
  | 0 => failure
  | fuel + 1 => do
    match ← peek with
    | .blockEntry =>
      skip
      let item ← nodeUnless [.blockEntry, .blockEnd] true false fuel
      return item :: (← blockItems fuel)
    | .blockEnd =>
      skip
      return []
    | _ => failure

/-- Read the items of a sequence that has no block of its own. -/
def unindentedItems : Nat → Reader (List Node)
  | 0 => failure
  | fuel + 1 => do
    match ← peek with
    | .blockEntry =>
      skip
      let item ← nodeUnless [.blockEntry, .key, .value, .blockEnd] true false fuel
      return item :: (← unindentedItems fuel)
    | _ => return []

/-- Read the members of a block mapping and its end. -/
def blockMembers : Nat → Reader (List (Node × Node))
  | 0 => failure
  | fuel + 1 => do
    let stops := [Token.key, .value, .blockEnd]
    match ← peek with
    | .key =>
      skip
      let key ← nodeUnless stops true true fuel
      let value ← memberValue stops true fuel
      return (key, value) :: (← blockMembers fuel)
    | .blockEnd =>
      skip
      return []
    | _ => failure

/-- Read the value of a member. -/
def memberValue (stops : List Token) (inBlock : Bool) : Nat → Reader Node
  | 0 => failure
  | fuel + 1 => do
    if (← peek) = .value then
      skip
      nodeUnless stops inBlock inBlock fuel
    else return blank none

/-- Read the items between brackets and the closing bracket. -/
def flowItems (first : Bool) : Nat → Reader (List Node)
  | 0 => failure
  | fuel + 1 => do
    if (← peek) = .flowSequenceEnd then
      skip
      return []
    else
      if !first then expect .flowEntry
      match ← peek with
      | .flowSequenceEnd =>
        skip
        return []
      | .key =>
        skip
        let key ← nodeUnless [.value, .flowEntry, .flowSequenceEnd] false false fuel
        let value ← memberValue [.flowEntry, .flowSequenceEnd] false fuel
        return .mapping [(key, value)] :: (← flowItems false fuel)
      | _ =>
        let item ← node false false fuel
        return item :: (← flowItems false fuel)

/-- Read the members between braces and the closing brace. -/
def flowMembers (first : Bool) : Nat → Reader (List (Node × Node))
  | 0 => failure
  | fuel + 1 => do
    if (← peek) = .flowMappingEnd then
      skip
      return []
    else
      if !first then expect .flowEntry
      match ← peek with
      | .flowMappingEnd =>
        skip
        return []
      | .key =>
        skip
        let key ← nodeUnless [.value, .flowEntry, .flowMappingEnd] false false fuel
        let value ← memberValue [.flowEntry, .flowMappingEnd] false fuel
        return (key, value) :: (← flowMembers false fuel)
      | _ =>
        let key ← node false false fuel
        return (key, blank none) :: (← flowMembers false fuel)

end

/-- The tag handles that need no directive. -/
def standardHandles : List (String × String) :=
  [("!", "!"), ("!!", "tag:yaml.org,2002:")]

/-- Read the directives before a document; tells whether there were any. -/
def directives (versioned : Bool) (handles : List (String × String)) :
    List Token → Option (List (String × String) × List Token)
  | .versionDirective major minor :: rest =>
    if versioned || major ≠ 1 || (minor ≠ 1 && minor ≠ 2) then none
    else directives true handles rest
  | .tagDirective handle target :: rest =>
    if (handles.lookup handle).isSome then none
    else directives versioned ((handle, target) :: handles) rest
  | rest => some (handles, rest)

/-- Read what follows the mark that begins a document. -/
def content (fuel : Nat) : Reader Node := do
  match ← peek with
  | .versionDirective .. | .tagDirective .. | .documentStart | .documentEnd | .streamEnd =>
    return blank none
  | _ => node true false fuel

end Reader

/-- Whether nothing but marks that end a document is left. -/
def endsStream : List Token → Bool
  | .documentEnd :: rest => endsStream rest
  | [.streamEnd] => true
  | _ => false

/-- The only document of a text. -/
def document? (s : String) : Option Node := do
  let tokens ← tokens? s
  if tokens = [.streamEnd] then return Reader.blank none
  else
    let (handles, rest) ← Reader.directives false [] tokens
    let marked := rest.head? = some .documentStart
    if !marked && rest.length < tokens.length then none
    else
      let fuel := 4 * tokens.length + 4
      let pending : Pending :=
        ⟨if marked then rest.drop 1 else rest, [], handles ++ Reader.standardHandles⟩
      let reader := if marked then Reader.content fuel else Reader.node true false fuel
      let (n, after) ← reader.run pending
      if endsStream after.tokens then some n else none

end ObjectGateway.Yaml
