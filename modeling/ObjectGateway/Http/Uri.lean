import ObjectGateway.Http.Header
import ObjectGateway.Request
import ObjectGateway.Text.Split

/-!
# Request targets

The address that a request names: a path with a query, a whole address with a scheme and a host, or
a host alone.  A fragment is dropped.
-/

namespace ObjectGateway.Http

/-- The address of a request. -/
structure Uri where
  /-- The host with its user and port; empty when the address names none. -/
  authority : String
  /-- Whether the address begins with a scheme. -/
  hasScheme : Bool
  /-- The path and the query, as they stand in the address. -/
  pathAndQuery : String
  deriving Repr, DecidableEq

namespace Uri

/-- Whether a character may stand in the name of a scheme. -/
def isSchemeChar (c : Char) : Bool :=
  c.isAlphanum || c == '+' || c == '-' || c == '.'

/-- What follows the scheme of an address, if it has one. -/
def afterScheme? (cs : List Char) : Option (List Char) :=
  match cs.dropWhile isSchemeChar with
  | ':' :: '/' :: '/' :: rest => if cs.takeWhile isSchemeChar = [] then none else some rest
  | _ => none

/-- An address without its fragment. -/
def dropFragment (cs : List Char) : List Char := cs.takeWhile (· ≠ '#')

/-- Whether a character ends the host of an address. -/
def endsAuthority (c : Char) : Bool := c == '/' || c == '?' || c == '#'

/-- Read an address. -/
def ofText (s : String) : Uri :=
  let cs := s.toList
  if cs.head? = some '/' || s == "*" then ⟨"", false, String.ofList (dropFragment cs)⟩
  else
    match afterScheme? cs with
    | some rest =>
      ⟨String.ofList (rest.takeWhile (!endsAuthority ·)), true,
        String.ofList (dropFragment (rest.dropWhile (!endsAuthority ·)))⟩
    | none => ⟨s, false, ""⟩

/-- The path. -/
def path (u : Uri) : String :=
  if u.pathAndQuery.isEmpty && !u.hasScheme then ""
  else
    match u.pathAndQuery.toList.takeWhile (· ≠ '?') with
    | [] => "/"
    | cs => String.ofList cs

/-- The path and the query. -/
def url (u : Uri) : String :=
  if !u.hasScheme && !u.authority.isEmpty then u.path
  else
    match u.pathAndQuery.toList with
    | [] => "/"
    | c :: _ => if c = '/' ∨ c = '*' then u.pathAndQuery else "/" ++ u.pathAndQuery

/-- The query, if there is one. -/
def query? (u : Uri) : Option String :=
  (Text.splitOnce '?' u.pathAndQuery.toList).map fun (_, q) => String.ofList q

/-- The host, without its user and port. -/
def host? (u : Uri) : Option String :=
  if u.authority.isEmpty then none
  else
    let cs := u.authority.toList
    let cs := ((Text.splitLast '@' cs).map (·.2)).getD cs
    match cs with
    | '[' :: _ => some (String.ofList (cs.takeWhile (· ≠ ']') ++ [']']))
    | _ => some (String.ofList (cs.takeWhile (· ≠ ':')))

end Uri

/-- Add the text of a header to a map; the values of a repeated header are joined. -/
def joinHeader (m : TextMap String) (h : Header) : TextMap String :=
  match valueText? h.value with
  | none => m
  | some v =>
    m.insert h.name (match m.get? h.name with
      | some before => before ++ ", " ++ v
      | none => v)

/-- The readable headers. -/
def headerMap (hs : Headers) : TextMap String :=
  hs.foldl joinHeader []

/-- What is known about a request from its first lines.  The host is that of the header, or else
that of the address. -/
def requestInfo (method : String) (uri : Uri) (hs : Headers) : RequestInfo :=
  let headers := headerMap hs
  let host := match headers.get? "host" with
    | some h => h
    | none => uri.host?.getD ""
  ⟨method, uri.url, uri.path, host, headers⟩

end ObjectGateway.Http
