/-!
# Decimal text of binary fractions

A floating point number is taken apart into an integer times a power of two, so that all rounding
is done in exact integer arithmetic.  Two texts are offered: the shortest digits that read back as
the same number, written without an exponent, and a fixed number of places with ties to even.
-/

namespace ObjectGateway.Decimal

/-- A non-negative fraction. -/
structure Ratio where
  num : Nat
  den : Nat
  deriving Repr, DecidableEq

/-- `significand · 2 ^ exponent`, negated when `negative`. -/
structure Binary where
  negative : Bool
  significand : Nat
  exponent : Int
  deriving Repr, DecidableEq

/-- Take a finite floating point number apart. -/
def Binary.ofFloat (x : Float) : Binary :=
  let bits := x.toBits.toNat
  let negative := bits / Nat.pow 2 63 == 1
  let field : Nat := bits / Nat.pow 2 52 % Nat.pow 2 11
  let fraction := bits % Nat.pow 2 52
  if field == 0 then ⟨negative, fraction, -1074⟩
  else ⟨negative, fraction + Nat.pow 2 52, (field : Int) - 1075⟩

/-- `n · 2 ^ e` as a fraction. -/
def scaled (n : Nat) (e : Int) : Ratio :=
  if 0 ≤ e then ⟨n * Nat.pow 2 e.toNat, 1⟩ else ⟨n, Nat.pow 2 (-e).toNat⟩

/-- The exact value, without its sign. -/
def Binary.magnitude (b : Binary) : Ratio :=
  scaled b.significand b.exponent

/-- The numbers that read back as the same floating point number lie between these bounds, given
over one denominator with the value itself in the middle. -/
structure Interval where
  low : Nat
  value : Nat
  high : Nat
  den : Nat
  /-- Whether the bounds themselves still read back. -/
  closed : Bool
  deriving Repr

/-- The interval around a non-zero number. -/
def Binary.interval (b : Binary) : Interval :=
  let quarter := scaled 1 (b.exponent - 2)
  let below := if b.significand == Nat.pow 2 52 && b.exponent > -1074 then 1 else 2
  ⟨(4 * b.significand - below) * quarter.num, 4 * b.significand * quarter.num,
    (4 * b.significand + 2) * quarter.num, quarter.den, b.significand % 2 == 0⟩

/-- The least `j` from `start` on with `num · 10 ^ j ≥ den`, looking at `fuel` of them. -/
def leadingPlace (num den : Nat) : Nat → Nat → Nat
  | 0, start => start
  | fuel + 1, start =>
    if num * Nat.pow 10 start ≥ den then start else leadingPlace num den fuel (start + 1)

/-- The power of ten of the first digit of a positive fraction. -/
def leadingExponent (r : Ratio) : Int :=
  if r.num ≥ r.den then ((Nat.toDigits 10 (r.num / r.den)).length : Int) - 1
  else -(leadingPlace r.num r.den 400 1 : Int)

/-- Whether `a · 10 ^ e` lies in the interval. -/
def Interval.holds (i : Interval) (a : Nat) (e : Int) : Bool :=
  let x := if 0 ≤ e then a * Nat.pow 10 e.toNat * i.den else a * i.den
  let s := if 0 ≤ e then 1 else Nat.pow 10 (-e).toNat
  if i.closed then i.low * s ≤ x && x ≤ i.high * s else i.low * s < x && x < i.high * s

/-- The digits of the first grid, from `digits` on, that has a neighbour of the value in the
interval, with the power of ten of the last digit. -/
def shortestFrom (i : Interval) (lead : Int) : Nat → Nat → Nat × Int
  | 0, digits => (0, lead - digits)
  | fuel + 1, digits =>
    let e := lead - (digits : Int) + 1
    let num := if 0 ≤ e then i.value else i.value * Nat.pow 10 (-e).toNat
    let den := if 0 ≤ e then i.den * Nat.pow 10 e.toNat else i.den
    let a := num / den
    let below := a > 0 && i.holds a e
    let above := i.holds (a + 1) e
    let nearBelow := 2 * (num % den) ≤ den
    if below && (nearBelow || !above) then (a, e)
    else if above then (a + 1, e)
    else shortestFrom i lead fuel (digits + 1)

/-- The shortest digits of a positive number, and the power of ten of the last one. -/
def shortestDigits (b : Binary) : Nat × Int :=
  let i := b.interval
  shortestFrom i (leadingExponent ⟨i.value, i.den⟩) 17 1

/-- Write digits without an exponent. -/
def positional (digits : Nat) (e : Int) : String :=
  let ds := Nat.toDigits 10 digits
  if 0 ≤ e then String.ofList (ds ++ List.replicate e.toNat '0')
  else
    let places := (-e).toNat
    if places < ds.length then
      String.ofList (ds.take (ds.length - places) ++ '.' :: ds.drop (ds.length - places))
    else String.ofList ('0' :: '.' :: List.replicate (places - ds.length) '0' ++ ds)

/-- The shortest text of a finite number that reads back, without an exponent; whole numbers have
no point. -/
def shortest (x : Float) : String :=
  let b := Binary.ofFloat x
  let body :=
    if b.significand == 0 then "0"
    else
      let (digits, e) := shortestDigits b
      positional digits e
  if b.negative then "-" ++ body else body

/-- The quotient rounded to the nearest integer, ties to the even one. -/
def roundHalfEven (num den : Nat) : Nat :=
  let q := num / den
  let r := num % den
  if 2 * r < den then q
  else if 2 * r > den then q + 1
  else if q % 2 == 0 then q else q + 1

/-- The text of a finite number with a fixed number of places. -/
def fixed (places : Nat) (x : Float) : String :=
  let b := Binary.ofFloat x
  let v := b.magnitude
  let scaledValue := roundHalfEven (v.num * Nat.pow 10 places) v.den
  let body :=
    if places == 0 then toString scaledValue
    else
      let ds := Nat.toDigits 10 scaledValue
      positional scaledValue (-(places : Int)) |> fun text =>
        if ds.length ≤ places then
          "0." ++ String.ofList (List.replicate (places - ds.length) '0' ++ ds)
        else text
  if b.negative then "-" ++ body else body

end ObjectGateway.Decimal
