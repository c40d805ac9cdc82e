import LuaAccessors.Decimal.Binary64
import LuaAccessors.Text.Basic

/-!
# Shortest decimals

The text of a floating point number has the fewest digits that read back as the number, and of those
the nearest. The reals that read back as `m * 2 ^ e` form an interval, its ends included if `m` is
even; for one digit, two digits, … the two neighbours of the number on the decimal grid of that many
digits are tried, and the first grid with a hit decides.

- `Interval`: the reals that round to a number, over one denominator;
- `shortest`: the chosen digits and their decimal exponent;
- `Binary64.toText`: positional from `0.0001` on and below `10 ^ 16`, with an exponent elsewhere.
-/

namespace LuaAccessors

/-! ## §1 The interval of a number -/

/-- The fractions `low / den` to `high / den` that round to `value / den`. -/
structure Interval where
  low : Nat
  value : Nat
  high : Nat
  den : Nat
  /-- The two ends round to the value as well. -/
  closed : Bool

namespace Interval

/-- The reals that round to `mantissa * 2 ^ exponent`. -/
def ofNumber (mantissa : Nat) (exponent : Int) : Interval :=
  -- Below a power of two the numbers lie twice as close as above it.
  let below := if mantissa = Nat.pow 2 52 ∧ Binary64.minExponent < exponent then 1 else 2
  let f (n : Nat) := (Binary64.scale n (exponent - 2)).1
  { low := f (4 * mantissa - below), value := f (4 * mantissa), high := f (4 * mantissa + 2),
    den := (Binary64.scale 1 (exponent - 2)).2, closed := mantissa % 2 = 0 }

/-- The interval in units of `10 ^ k`. -/
def inUnits (i : Interval) (k : Int) : Interval :=
  if 0 ≤ k then { i with den := i.den * Nat.pow 10 k.toNat }
  else
    let factor := Nat.pow 10 (-k).toNat
    { i with low := i.low * factor, value := i.value * factor, high := i.high * factor }

/-- Whether the integer `n` lies in the interval. -/
def contains (i : Interval) (n : Nat) : Bool :=
  let x := n * i.den
  if i.closed then i.low ≤ x && x ≤ i.high else i.low < x && x < i.high

end Interval

/-! ## §2 The choice of digits

On each grid at most two neighbours of the number come into question. Seventeen grids are enough, for seventeen
digits tell any two numbers apart.
-/

/-- How many zeros follow the point of `n / d`, at most `bound`. -/
def zerosAfterPoint (n d : Nat) : Nat → Nat
  | 0 => 0
  | bound + 1 => if n * 10 < d then zerosAfterPoint (n * 10) d bound + 1 else 0

/-- The position of the leading digit of `n / d`: one for a digit in front of the point. -/
def leadingPosition (n d : Nat) : Int :=
  if d ≤ n then (Nat.toDigits 10 (n / d)).length else -(zerosAfterPoint n d 400 : Int)

/-- The neighbour of the value on the grid of `10 ^ k` that reads back, the nearer one of two and
the even one of two that are equally near. -/
def onGrid? (i : Interval) (k : Int) : Option Nat :=
  let u := i.inUnits k
  let below := u.value / u.den
  let rest := u.value % u.den
  match u.contains below, u.contains (below + 1) with
  | true, false => some below
  | false, true => some (below + 1)
  | true, true =>
    if 2 * rest < u.den ∨ (2 * rest = u.den ∧ below % 2 = 0) then some below else some (below + 1)
  | false, false => none

/-- The shortest digits and the power of ten they count, with `left` grids still to try; the first
of seventeen has one digit. -/
def shortestFrom (i : Interval) (leading : Int) : Nat → Nat × Int
  | 0 => (i.value / i.den, 0)
  | left + 1 =>
    let k := leading - (17 - left)
    match onGrid? i k with
    | some n => (n, k)
    | none => shortestFrom i leading left

/-- The shortest digits of `mantissa * 2 ^ exponent` and the power of ten they count. -/
def shortest (mantissa : Nat) (exponent : Int) : Nat × Int :=
  let i := Interval.ofNumber mantissa exponent
  shortestFrom i (leadingPosition i.value i.den) 17

/-! ## §3 The text -/

/-- The digits of a decimal laid out with its point: positional if the leading digit counts from
`10 ^ -4` to `10 ^ 15`, else with an exponent of at least two digits. -/
def layoutDecimal (digits : Nat) (exponent : Int) : Text :=
  let all := Text.ofNat digits
  -- Zeros at the end belong to the exponent.
  let ds := all.dropEndWhile (· == '0')
  let point : Int := all.length + exponent
  let size : Int := ds.length
  if -4 < point ∧ point ≤ 16 then
    if point ≤ 0 then "0.".toList ++ List.replicate (-point).toNat '0' ++ ds
    else if size ≤ point then ds ++ List.replicate (point - size).toNat '0' ++ ".0".toList
    else ds.take point.toNat ++ '.' :: ds.drop point.toNat
  else
    let e := point - 1
    let digitsOf := Text.ofNat e.natAbs
    let mantissa := match ds with
      | d :: f :: more => d :: '.' :: f :: more
      | ds => ds
    mantissa ++ ['e', if e < 0 then '-' else '+']
      ++ List.replicate (2 - digitsOf.length) '0' ++ digitsOf

/-- The text of a number. -/
def Binary64.toText : Binary64 → Text
  | .finite negative mantissa exponent =>
    let sign := if negative then ['-'] else []
    if mantissa = 0 then sign ++ "0.0".toList
    else
      let (digits, k) := shortest mantissa exponent
      sign ++ layoutDecimal digits k
  | .infinite negative => if negative then "-inf".toList else "inf".toList
  | .notANumber => "nan".toList

/-- The nearest number to a tenth is written as a tenth. -/
example : (Binary64.ofDecimal false 1 (-1)).toText = "0.1".toList := by decide +kernel

/-- Integers from `10 ^ 16` on, and numbers below `0.0001`, have an exponent. -/
example : (Binary64.ofDecimal false 1 16).toText = "1e+16".toList
    ∧ (Binary64.ofDecimal false 1 15).toText = "1000000000000000.0".toList
    ∧ (Binary64.ofDecimal true 15 (-8)).toText = "-1.5e-07".toList := by decide +kernel

end LuaAccessors
