import ObjectGateway.Text.Split

/-!
# Paths and keys

Request paths are joined to keys, and keys back to paths.  A path is joined by its segments alone:
empty ones and `.` are dropped, and `..` takes back the segment before it.
-/

namespace ObjectGateway

/-- Whether a path names a folder. -/
def isFolderPath (path : String) : Bool :=
  path.isEmpty || path.toList.getLast? = some '/'

/-- A path without the slash that it begins with. -/
def dropLeadingSlash (path : String) : String :=
  match path.toList with
  | '/' :: rest => String.ofList rest
  | _ => path

/-- The text after a start; other texts stay whole. -/
def dropStart (start text : String) : String :=
  match Text.stripStart? start.toList text.toList with
  | some rest => String.ofList rest
  | none => text

/-- A name in a folder, with one slash between them. -/
def joinKey (key name : String) : String :=
  let folder := key.toList.reverse.dropWhile (· = '/')
  let name := name.toList.dropWhile (· = '/')
  if folder.isEmpty then String.ofList name
  else String.ofList (folder.reverse ++ '/' :: name)

/-- Follow a segment of a path.  The segments so far are held in reverse. -/
def followSegment (rooted : Bool) (parts : List (List Char)) (s : List Char) :
    List (List Char) :=
  if s = [] ∨ s = ['.'] then parts
  else if s = ['.', '.'] then
    match parts with
    | p :: rest => if p = ['.', '.'] then (if rooted then parts else s :: parts) else rest
    | [] => if rooted then [] else [s]
  else s :: parts

/-- The segments that a text leads through. -/
def followPath (rooted : Bool) (cs : List Char) : List (List Char) :=
  ((Text.splitOn '/' cs).foldl (followSegment rooted) []).reverse

/-- Segments with slashes between them. -/
def joinSegments : List (List Char) → List Char
  | [] => []
  | [s] => s
  | s :: rest => s ++ '/' :: joinSegments rest

/-- The shortest path of a text that is not empty. -/
def normalPath (cs : List Char) : List Char :=
  let rooted := cs.head? = some '/'
  let body := joinSegments (followPath rooted cs)
  if rooted then '/' :: body
  else if body.isEmpty then ['.']
  else body

/-- Join two paths. -/
def joinPath (base rest : String) : String :=
  let joined :=
    if base.isEmpty then rest.toList
    else if rest.isEmpty then base.toList
    else base.toList ++ '/' :: rest.toList
  if joined.isEmpty then "" else String.ofList (normalPath joined)

end ObjectGateway
