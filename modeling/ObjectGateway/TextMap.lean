/-!
# Maps from texts

A map from texts is a list of pairs in the order of the texts, code point by code point, which is
also the order of their encodings.  A later value for the same text replaces the earlier one.
-/

namespace ObjectGateway

/-- A map from texts, as pairs in order. -/
abbrev TextMap (α : Type) := List (String × α)

namespace TextMap

variable {α : Type}

/-- Put a value at a text. -/
def insert (k : String) (v : α) : TextMap α → TextMap α
  | [] => [(k, v)]
  | (l, w) :: rest =>
    if k = l then (k, v) :: rest
    else if k < l then (k, v) :: (l, w) :: rest
    else (l, w) :: insert k v rest

/-- Remove the value at a text. -/
def erase (k : String) (m : TextMap α) : TextMap α :=
  m.filter fun p => p.1 ≠ k

/-- The value at a text. -/
def get? (k : String) (m : TextMap α) : Option α :=
  m.lookup k

/-- Keep the values at some texts only. -/
def retain (ks : List String) (m : TextMap α) : TextMap α :=
  m.filter fun p => ks.contains p.1

/-- Put the values of pairs; later pairs win. -/
def insertAll (ps : List (String × α)) (m : TextMap α) : TextMap α :=
  ps.foldl (fun m p => m.insert p.1 p.2) m

/-- The map of a list of pairs; later pairs win. -/
def ofList (ps : List (String × α)) : TextMap α :=
  insertAll ps []

/-- The texts that have a value. -/
def keys (m : TextMap α) : List String :=
  m.map (·.1)

end TextMap

end ObjectGateway
