import ObjectGateway.Store.Object

/-!
# Bodies

The body of an answer: octets that are at hand, a stream from a store, or nothing.
-/

namespace ObjectGateway.Http

/-- The body of an answer. -/
inductive Body
  | buffered (bytes : Bytes)
  | streaming (stream : ObjectStream)
  | empty
  deriving Repr, DecidableEq

namespace Body

/-- A body with a text. -/
def ofText (s : String) : Body := .buffered (Text.Utf8.encode s)

/-- Whether nothing is left to be read, as far as is known without reading. -/
def isEnd : Body → Bool
  | buffered bs => bs.isEmpty
  | streaming _ => false
  | empty => true

/-- The number of octets, where it is known without reading. -/
def size? : Body → Option Nat
  | buffered bs => some bs.length
  | streaming _ => none
  | empty => some 0

/-- The octets up to the end or to where the stream breaks off, and the reason why it does. -/
def read : Body → Bytes × Option String
  | buffered bs => (bs, none)
  | streaming stream => go stream
  | empty => ([], none)
where
  /-- The octets of a stream and the reason why it breaks off. -/
  go : ObjectStream → Bytes × Option String
    | [] => ([], none)
    | .data bs :: rest => let (more, e) := go rest; (bs ++ more, e)
    | .broken reason :: _ => ([], some reason)

/-- What is shown in place of a stream. -/
def streamSketch : String := "Streaming(..)"

end Body

end ObjectGateway.Http
