import SandboxClient.Decimal.Binary64

/-!
# Shortest decimals

The decimal text of a double has the fewest digits that read back as the same double, and of those
the nearest.  The doubles nearest to a given one leave an interval of reals around it that read back
as it; a decimal grid with one to seventeen digits is searched for a point of that interval, coarsest
grid first.  If any point of a grid lies in the interval, one of the two grid points next to the value
does, so only these two are tried.
-/

namespace SandboxClient

namespace Decimal

/-- A positive decimal `0.d₁d₂…dₖ * 10 ^ point`, whose digits `d₁…dₖ` are those of `digits`. -/
structure Digits where
  digits : Nat
  point : Int
  deriving DecidableEq, Repr

/-- The number of decimal digits of a natural number; zero has none. -/
def digitCount (value : Nat) : Nat :=
  if value = 0 then 0 else digitCount (value / 10) + 1

/-- The least `point` with `numerator / denominator < 10 ^ point`. -/
def pointOf (numerator denominator : Nat) : Int :=
  if denominator ≤ numerator then digitCount (numerator / denominator)
  else 1 - (digitCount ((denominator - 1) / numerator) : Int)

/-- The interval of reals that read back as the double `mantissa * 2 ^ exponent`, in quarters of
`2 ^ exponent`.  The gap below a power of two is half as wide, and the ends belong to the interval
when the mantissa is even. -/
structure Interval where
  low : Nat
  middle : Nat
  high : Nat
  closed : Bool

def Interval.around (mantissa : Nat) (exponent : Int) : Interval where
  low := 4 * mantissa -
    (if mantissa = Nat.pow 2 Binary64.fractionBits ∧ -1074 < exponent then 1 else 2)
  middle := 4 * mantissa
  high := 4 * mantissa + 2
  closed := mantissa % 2 = 0

/-- Whether the interval, times `scale`, contains `point` times `unit`. -/
def Interval.holds (interval : Interval) (scale unit point : Nat) : Bool :=
  if interval.closed then
    interval.low * scale ≤ point * unit && point * unit ≤ interval.high * scale
  else interval.low * scale < point * unit && point * unit < interval.high * scale

/-- The point of one decimal grid that reads back as the double, if there is one: the nearer of the
two neighbours of the value, and the even one when both are equally near. -/
def onGrid? (interval : Interval) (scale unit : Nat) : Option Nat :=
  let below := interval.middle * scale / unit
  let above := below + 1
  match interval.holds scale unit below, interval.holds scale unit above with
  | true, true =>
    let down := interval.middle * scale - below * unit
    let up := above * unit - interval.middle * scale
    if down < up then some below
    else if up < down then some above
    else if below % 2 = 0 then some below else some above
  | true, false => some below
  | false, true => some above
  | false, false => none

/-- Searches the grids of `count`, `count + 1`, … digits, at most `tries` of them. -/
def searchGrids (interval : Interval) (exponent point : Int) : (tries count : Nat) → Digits
  | 0, _ => ⟨interval.middle, point⟩
  | tries + 1, count =>
    let grid : Int := point - count
    let scale := Binary64.numerator 1 (exponent - 2) * Nat.pow 10 (-grid).toNat
    let unit := Binary64.denominator (exponent - 2) * Nat.pow 10 grid.toNat
    match onGrid? interval scale unit with
    | some digits => ⟨digits, grid + digitCount digits⟩
    | none => searchGrids interval exponent point tries (count + 1)

/-- The shortest digits of a positive double. -/
def shortest (mantissa : Nat) (exponent : Int) : Digits :=
  searchGrids (Interval.around mantissa exponent) exponent
    (pointOf (Binary64.numerator mantissa exponent) (Binary64.denominator exponent)) 17 1

end Decimal

end SandboxClient
