import ObjectGateway.Text.RangeTable
import ObjectGateway.Text.Utf8

/-!
# Percent coding

Octets written as `%` and two hexadecimal digits.  Decoding replaces every complete escape and
leaves anything else, a lone `%` included, as it is.
-/

namespace ObjectGateway.Text.Percent

/-- The value of an octet that is an ASCII hexadecimal digit. -/
def digit? (b : UInt8) : Option Nat :=
  let c := Char.ofNat b.toNat
  if isHexDigit c then some (hexValue c) else none

/-- Replace every complete escape by the octet it stands for. -/
def decode : Bytes → Bytes
  | [] => []
  | b :: rest =>
    if b = '%'.toNat.toUInt8 then
      match rest with
      | x :: y :: tail =>
        match digit? x, digit? y with
        | some h, some l => (h * 16 + l).toUInt8 :: decode tail
        | _, _ => b :: decode (x :: y :: tail)
      | rest => b :: decode rest
    else b :: decode rest

/-- A hexadecimal digit in upper case. -/
def upperDigit (n : Nat) : Char :=
  if n < 10 then Char.ofNat ('0'.toNat + n) else Char.ofNat ('A'.toNat + (n - 10))

/-- The escape of one octet. -/
def escapeByte (b : UInt8) : List Char :=
  ['%', upperDigit (b.toNat / 16), upperDigit (b.toNat % 16)]

/-- Whether a character stands for itself in every part of an address. -/
def isUnreserved (c : Char) : Bool :=
  c.isAlphanum || c == '-' || c == '.' || c == '_' || c == '~'

/-- Escape every character outside of a class by the octets of its encoding. -/
def encodeWith (keep : Char → Bool) (s : String) : String :=
  String.ofList <| s.toList.flatMap fun c =>
    if keep c then [c] else (Utf8.encodeChar c).flatMap escapeByte

/-- Escape every character that is not unreserved. -/
def encode (s : String) : String :=
  encodeWith isUnreserved s

/-- Escape a path: separators are kept. -/
def encodePath (s : String) : String :=
  encodeWith (fun c => isUnreserved c || c == '/') s

end ObjectGateway.Text.Percent
