/-!
# Splitting text

The pieces of a text between the occurrences of a character, and the text before and after the
first or the last of them.
-/

namespace ObjectGateway.Text

/-- The pieces between the occurrences of a character; there is always one. -/
def splitOn (c : Char) : List Char → List (List Char)
  | [] => [[]]
  | x :: rest =>
    if x = c then [] :: splitOn c rest
    else
      match splitOn c rest with
      | piece :: pieces => (x :: piece) :: pieces
      | [] => [[x]]

/-- What lies before and after the first occurrence of a character. -/
def splitOnce (c : Char) (cs : List Char) : Option (List Char × List Char) :=
  match cs.dropWhile (· ≠ c) with
  | _ :: rest => some (cs.takeWhile (· ≠ c), rest)
  | [] => none

/-- What lies before and after the last occurrence of a character. -/
def splitLast (c : Char) (cs : List Char) : Option (List Char × List Char) :=
  (splitOnce c cs.reverse).map fun (after, before) => (before.reverse, after.reverse)

/-- The text after another one that it starts with. -/
def stripStart? (start cs : List Char) : Option (List Char) :=
  if start.isPrefixOf cs then some (cs.drop start.length) else none

theorem splitOn_ne_nil (c : Char) (cs : List Char) : splitOn c cs ≠ [] := by
  cases cs with
  | nil => simp [splitOn]
  | cons x rest =>
    unfold splitOn
    split
    · simp
    · split <;> simp

end ObjectGateway.Text
