import ObjectGateway.Decimal

/-!
# Sizes for people

A number of bytes in decimal units, with one place once it reaches a thousand.
-/

namespace ObjectGateway.HumanSize

/-- The units above the byte, each a thousand times the one before. -/
def units : List String :=
  ["kB", "MB", "GB", "TB", "PB"]

/-- Divide by a thousand while that leaves at least one, as long as there are units. -/
def scale : List String → String → Float → Float × String
  | [], unit, x => (x, unit)
  | next :: rest, unit, x =>
    if x ≥ 1000.0 then scale rest next (x / 1000.0) else (x, unit)

/-- The text of a number of bytes. -/
def format (bytes : Int) : String :=
  if bytes < 1000 then toString bytes ++ " B"
  else
    let (x, unit) := scale units "B" (Float.ofInt bytes)
    Decimal.fixed 1 x ++ " " ++ unit

end ObjectGateway.HumanSize
