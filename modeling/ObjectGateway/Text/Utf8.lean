/-!
# UTF-8

Encoding of characters as octets and a decoder that walks the octets one at a time.  The decoder
holds, inside a character, how many octets are still owed and the range the next one must lie in,
so that it stops at the first octet that no well-formed text can have there.  A failure tells where
the unfinished character starts and how many octets of it were read.
-/

namespace ObjectGateway

/-- A sequence of octets. -/
abbrev Bytes := List UInt8

namespace Text.Utf8

/-- The octets of one code point. -/
def encodeNat (n : Nat) : Bytes :=
  if n < 0x80 then [n.toUInt8]
  else if n < 0x800 then [(0xC0 + n / 64).toUInt8, (0x80 + n % 64).toUInt8]
  else if n < 0x10000 then
    [(0xE0 + n / 4096).toUInt8, (0x80 + n / 64 % 64).toUInt8, (0x80 + n % 64).toUInt8]
  else
    [(0xF0 + n / 262144).toUInt8, (0x80 + n / 4096 % 64).toUInt8, (0x80 + n / 64 % 64).toUInt8,
      (0x80 + n % 64).toUInt8]

/-- The octets of one character. -/
def encodeChar (c : Char) : Bytes :=
  encodeNat c.val.toNat

/-- The octets of a list of characters. -/
def encodeList (cs : List Char) : Bytes :=
  cs.flatMap encodeChar

/-- The octets of a text. -/
def encode (s : String) : Bytes :=
  encodeList s.toList

/-- How far into a character the decoder is. -/
structure Pending where
  /-- The bits collected so far. -/
  bits : Nat
  /-- How many octets are still owed. -/
  owed : Nat
  /-- The least octet that may follow. -/
  low : Nat
  /-- The greatest octet that may follow. -/
  high : Nat
  deriving Repr, DecidableEq

/-- What a first octet begins: a whole character, a longer one, or nothing. -/
inductive Lead
  | whole (c : Char)
  | begins (p : Pending)
  | refused
  deriving Repr, DecidableEq

/-- Read the first octet of a character. -/
def Lead.of (b : Nat) : Lead :=
  if b < 0x80 then .whole (Char.ofNat b)
  else if b < 0xC2 then .refused
  else if b < 0xE0 then .begins ⟨b - 0xC0, 1, 0x80, 0xBF⟩
  else if b = 0xE0 then .begins ⟨0, 2, 0xA0, 0xBF⟩
  else if b = 0xED then .begins ⟨0xD, 2, 0x80, 0x9F⟩
  else if b < 0xF0 then .begins ⟨b - 0xE0, 2, 0x80, 0xBF⟩
  else if b = 0xF0 then .begins ⟨0, 3, 0x90, 0xBF⟩
  else if b < 0xF4 then .begins ⟨b - 0xF0, 3, 0x80, 0xBF⟩
  else if b = 0xF4 then .begins ⟨4, 3, 0x80, 0x8F⟩
  else .refused

/-- Why octets are not UTF-8: the offset of the first character that is none, and how many octets
of it were read, unless the input ended inside it. -/
structure Defect where
  validUpTo : Nat
  length : Option Nat
  deriving Repr, DecidableEq

/-- The wording of a decoding failure. -/
def Defect.message (d : Defect) : String :=
  match d.length with
  | some n =>
    "invalid utf-8 sequence of " ++ toString n ++ " bytes from index " ++ toString d.validUpTo
  | none => "incomplete utf-8 byte sequence from index " ++ toString d.validUpTo

/-- One decoded piece of an octet sequence: a character, or a maximal run that begins none. -/
inductive Piece
  | char (c : Char)
  | broken (d : Defect)
  deriving Repr, DecidableEq

/-- Walk the octets.  `start` is the offset of the character being read, `seen` how many of its
octets have been read, `state` how far into it the walk is. -/
def pieces (start seen : Nat) (state : Option Pending) : Bytes → List Piece
  | [] =>
    match state with
    | none => []
    | some _ => [.broken ⟨start, none⟩]
  | b :: rest =>
    match state with
    | none =>
      match Lead.of b.toNat with
      | .whole c => .char c :: pieces (start + 1) 0 none rest
      | .begins p => pieces start 1 (some p) rest
      | .refused => .broken ⟨start, some 1⟩ :: pieces (start + 1) 0 none rest
    | some p =>
      if p.low ≤ b.toNat ∧ b.toNat ≤ p.high then
        let bits := p.bits * 64 + (b.toNat - 0x80)
        if p.owed ≤ 1 then .char (Char.ofNat bits) :: pieces (start + seen + 1) 0 none rest
        else pieces start (seen + 1) (some ⟨bits, p.owed - 1, 0x80, 0xBF⟩) rest
      else
        .broken ⟨start, some seen⟩ ::
          match Lead.of b.toNat with
          | .whole c => .char c :: pieces (start + seen + 1) 0 none rest
          | .begins q => pieces (start + seen) 1 (some q) rest
          | .refused => .broken ⟨start + seen, some 1⟩ :: pieces (start + seen + 1) 0 none rest

/-- The characters of pieces that hold no broken run. -/
def collect : List Piece → Except Defect (List Char)
  | [] => .ok []
  | .char c :: rest => (collect rest).map (c :: ·)
  | .broken d :: _ => .error d

/-- Decode octets to characters, or tell where they stop being UTF-8. -/
def decodeList (bs : Bytes) : Except Defect (List Char) :=
  collect (pieces 0 0 none bs)

/-- Decode octets to text, or tell where they stop being UTF-8. -/
def decode (bs : Bytes) : Except Defect String :=
  (decodeList bs).map String.ofList

/-- The text of octets that are UTF-8. -/
def decode? (bs : Bytes) : Option String :=
  (decode bs).toOption

/-- Decode octets, with a replacement character for every broken run. -/
def decodeLossy (bs : Bytes) : String :=
  String.ofList <| (pieces 0 0 none bs).map fun
    | .char c => c
    | .broken _ => Char.ofNat 0xFFFD

end Text.Utf8

end ObjectGateway
