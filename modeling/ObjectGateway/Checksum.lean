/-!
# Content digests

A store may know several checksums of an object.  Clients are shown the strongest one that covers
the whole object; checksums of parts, which hold a hyphen, cover none.
-/

namespace ObjectGateway

/-- A checksum algorithm. -/
inductive Digest
  | sha256
  | sha1
  | crc32c
  | crc32
  deriving Repr, DecidableEq

namespace Digest

/-- The algorithms, strongest first. -/
def priority : List Digest :=
  [sha256, sha1, crc32c, crc32]

/-- The name of an algorithm in a header. -/
def name : Digest → String
  | sha256 => "sha-256"
  | sha1 => "sha-1"
  | crc32c => "crc32c"
  | crc32 => "crc32"

end Digest

/-- The checksums that a store may report for an object. -/
structure Checksums where
  sha256 : Option String
  sha1 : Option String
  crc32c : Option String
  crc32 : Option String
  deriving Repr, DecidableEq, Inhabited

namespace Checksums

/-- The checksum of one algorithm. -/
def get (c : Checksums) : Digest → Option String
  | .sha256 => c.sha256
  | .sha1 => c.sha1
  | .crc32c => c.crc32c
  | .crc32 => c.crc32

/-- Whether a checksum covers the whole object. -/
def coversObject (value : String) : Bool :=
  !value.toList.contains '-'

/-- The digest by one algorithm, if its checksum covers the object. -/
def digestBy? (c : Checksums) (d : Digest) : Option String :=
  ((c.get d).filter coversObject).map fun value => d.name ++ "=:" ++ value ++ ":"

/-- The strongest digest of an object; empty when no checksum covers it. -/
def digest (c : Checksums) : String :=
  (Digest.priority.findSome? c.digestBy?).getD ""

end Checksums

end ObjectGateway
