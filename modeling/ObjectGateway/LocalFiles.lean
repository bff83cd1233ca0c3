import ObjectGateway.Text.Split
import ObjectGateway.Text.Utf8

/-!
# Local files

The files below the working directory.  A path is resolved one segment after the other, so that a
path through a file is told apart from one that leads nowhere.
-/

namespace ObjectGateway

/-- Why a file could not be read. -/
inductive FileError
  | missing
  | isDirectory
  | notDirectory
  | nameTooLong
  | nulInName
  | notText
  deriving Repr, DecidableEq

/-- The wording of a failure to read a file. -/
def FileError.message : FileError → String
  | missing => "No such file or directory (os error 2)"
  | isDirectory => "Is a directory (os error 21)"
  | notDirectory => "Not a directory (os error 20)"
  | nameTooLong => "File name too long (os error 36)"
  | nulInName => "file name contained an unexpected NUL byte"
  | notText => "stream did not contain valid UTF-8"

/-- The files below the working directory, by their paths in it. -/
structure LocalFiles where
  entries : List (List (List Char) × Bytes)
  deriving Inhabited

namespace LocalFiles

/-- The segments of a path. -/
def segments (path : String) : List (List Char) :=
  Text.splitOn '/' path.toList

/-- The files with the given paths. -/
def ofList (files : List (String × Bytes)) : LocalFiles :=
  ⟨files.map fun (path, content) =>
    ((segments path).filter fun s => !s.isEmpty && s ≠ ['.'], content)⟩

/-- Whether a place is a directory: the working directory, or a place above a file. -/
def isDirectory (fs : LocalFiles) (place : List (List Char)) : Bool :=
  place.isEmpty || fs.entries.any fun (path, _) =>
    place.length < path.length && place.isPrefixOf path

/-- The content of the file at a place. -/
def content? (fs : LocalFiles) (place : List (List Char)) : Option Bytes :=
  fs.entries.lookup place

/-- The longest name of a file in octets. -/
def nameLimit : Nat := 255

/-- The longest path in octets. -/
def pathLimit : Nat := 4095

/-- Whether a segment leads to no file: it is empty or consists of dots. -/
def isStep (s : List Char) : Bool :=
  s.isEmpty || s = ['.'] || s = ['.', '.']

/-- Walk a path from a place. -/
def walk (fs : LocalFiles) (place : List (List Char)) :
    List (List Char) → Except FileError (List (List Char))
  | [] => .ok place
  | s :: rest =>
    if (fs.content? place).isSome then .error .notDirectory
    else if s.isEmpty || s = ['.'] then walk fs place rest
    else if s = ['.', '.'] then
      if !place.isEmpty then walk fs place.dropLast rest
      else .error (if rest.all isStep then .isDirectory else .missing)
    else if nameLimit < (Text.Utf8.encodeList s).length then .error .nameTooLong
    else
      let next := place ++ [s]
      if (fs.content? next).isSome || fs.isDirectory next then walk fs next rest
      else .error .missing

/-- The content of the file that a path leads to. -/
def read (fs : LocalFiles) (path : String) : Except FileError Bytes := do
  if path.isEmpty then throw .missing
  else if path.toList.contains (Char.ofNat 0) then throw .nulInName
  else if pathLimit < path.utf8ByteSize then throw .nameTooLong
  else if path.startsWith "/" then
    throw (if path.toList.all (· == '/') then .isDirectory else .missing)
  else
    let place ← fs.walk [] (segments path)
    match fs.content? place with
    | some content => return content
    | none => throw .isDirectory

/-- The text of the file that a path leads to. -/
def readText (fs : LocalFiles) (path : String) : Except FileError String := do
  match Text.Utf8.decode? (← fs.read path) with
  | some s => return s
  | none => throw .notText

end LocalFiles

/-- The variables of the environment. -/
abbrev Environment := List (String × String)

end ObjectGateway
