/-!
# Shortest decimal text of a double

A finite double is `m · 2^q` with integers `m` and `q`. The real numbers that round to it form
an interval, closed when `m` is even and open otherwise. Among the decimals with the fewest
digits in that interval the nearest one to the double is chosen. The search is exact: it
compares natural numbers only.
-/

namespace CrudScaffold.Decimal

/-- A positive double as a fraction, with the two midpoints to its neighbours over the same
denominator. `closed` tells whether the midpoints themselves round to the double. -/
structure Interval where
  low : Nat
  value : Nat
  high : Nat
  denominator : Nat
  closed : Bool
deriving Repr

/-- The rounding interval of the positive double with the given bits. Over the denominator
`4 / 2^q` the half steps to the neighbours are whole. The step below a power of two is half
as wide. -/
def intervalOfBits (bits : Nat) : Interval :=
  let exponent := (bits >>> 52) % 0x800
  let fraction := bits % 0x10000000000000
  let m := if exponent = 0 then fraction else fraction + 0x10000000000000
  let e := if exponent = 0 then 1 else exponent
  let down := if fraction = 0 ∧ 1 < exponent then 1 else 2
  let scale := if e < 1077 then 1 else 1 <<< (e - 1077)
  { low := (4 * m - down) * scale
    value := 4 * m * scale
    high := (4 * m + 2) * scale
    denominator := if e < 1077 then 1 <<< (1077 - e) else 1
    closed := m % 2 == 0 }

namespace Interval

/-- The decimal `n · 10^s` lies in the interval, where `s` is given as `up - down`. -/
def holds (i : Interval) (n up down : Nat) : Bool :=
  let x := n * Nat.pow 10 up * i.denominator
  let scaled (y : Nat) := y * Nat.pow 10 down
  if i.closed then scaled i.low ≤ x && x ≤ scaled i.high
  else scaled i.low < x && x < scaled i.high

/-- The multiple of `10^s` in the interval that is nearest to its value, if there is one. -/
def nearest? (i : Interval) (up down : Nat) : Option Nat :=
  let numerator := i.value * Nat.pow 10 down
  let unit := Nat.pow 10 up * i.denominator
  let floor := numerator / unit
  let rest := numerator % unit
  let below := 0 < floor && i.holds floor up down
  let above := i.holds (floor + 1) up down
  if below && above then some (if 2 * rest ≤ unit then floor else floor + 1)
  else if below then some floor
  else if above then some (floor + 1)
  else none

/-- The coarsest grid `10^s` with a point in the interval, from `10^310` downwards. -/
def search (i : Interval) : Nat → Nat × Int
  | 0 => (0, 0)
  | fuel + 1 =>
    let s : Int := Int.ofNat (fuel + 1) - 342
    match i.nearest? s.toNat (-s).toNat with
    | some n => (n, s)
    | none => i.search fuel

end Interval

/-- The bit that marks a negative double, as a number. -/
def signBit : Nat := 0x8000000000000000

/-- The digits and the power of ten of the shortest decimal that reads back as the positive
double `x`. -/
def shortest (x : Float) : Nat × Int :=
  (intervalOfBits (x.toBits.toNat % signBit)).search 652

/-- The decimal exponent range that is written without an exponent. -/
def positionalFrom : Int := -4

/-- The first decimal exponent beyond `positionalFrom` that needs an exponent. -/
def positionalBelow : Int := 16

/-- Writes a positive decimal `n · 10^s` with a point, and with an exponent of a sign and at
least two digits outside the positional range. -/
def render (n : Nat) (s : Int) : String :=
  let digits := (toString n).toList
  let digits := (digits.reverse.dropWhile (· == '0')).reverse
  let s := s + Int.ofNat ((toString n).length - digits.length)
  let e := s + Int.ofNat digits.length - 1
  let text (c : List Char) := String.ofList c
  if positionalFrom ≤ e ∧ e < positionalBelow then
    if e < 0 then "0." ++ text (List.replicate (-e - 1).toNat '0') ++ text digits
    else
      let padded := digits ++ List.replicate ((e + 1).toNat - digits.length) '0'
      let tail := padded.drop (e + 1).toNat
      text (padded.take (e + 1).toNat) ++ "." ++ (if tail.isEmpty then "0" else text tail)
  else
    let power := toString e.natAbs
    let power := if power.length < 2 then "0" ++ power else power
    let mantissa := match digits with
      | [] => ""
      | [d] => text [d]
      | d :: r => text [d] ++ "." ++ text r
    mantissa ++ "e" ++ (if e < 0 then "-" else "+") ++ power

/-- The text of a finite double. -/
def ofFloat (x : Float) : String :=
  let bits := x.toBits.toNat
  let sign := if signBit ≤ bits then "-" else ""
  if bits % signBit = 0 then sign ++ "0.0"
  else
    let (n, s) := shortest x
    sign ++ render n s

end CrudScaffold.Decimal
