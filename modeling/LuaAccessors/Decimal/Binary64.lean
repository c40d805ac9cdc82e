/-!
# Binary floating point numbers

A number of 64 bits is a sign with a natural number times a power of two, an infinity, or no number
at all. Everything is exact arithmetic on natural numbers.

- `roundDiv`: the natural number nearest to a quotient, a half going to the even neighbour;
- `Binary64.ofDecimal`: the number nearest to a decimal, with the same rule for ties;
- `Binary64.fraction?`: the exact value of a number.
-/

namespace LuaAccessors

/-! ## §1 Rounding -/

/-- The natural number nearest to `n / d`; a half goes to the even neighbour. -/
def roundDiv (n d : Nat) : Nat :=
  let q := n / d
  let r := n % d
  if 2 * r < d then q else if d < 2 * r then q + 1 else if q % 2 = 0 then q else q + 1

/-! ## §2 Numbers -/

/-- A floating point number of 64 bits. -/
inductive Binary64 where
  /-- The number `mantissa * 2 ^ exponent`, negated if `negative`. -/
  | finite (negative : Bool) (mantissa : Nat) (exponent : Int)
  | infinite (negative : Bool)
  | notANumber
  deriving Repr, DecidableEq

namespace Binary64

/-- The least exponent. -/
def minExponent : Int := -1074

/-- The greatest exponent. -/
def maxExponent : Int := 971

/-- The number is zero, of either sign. -/
def isZero : Binary64 → Bool
  | .finite _ mantissa _ => mantissa == 0
  | _ => false

/-- Numerator and denominator of `n * 2 ^ e`. -/
def scale (n : Nat) (e : Int) : Nat × Nat :=
  if 0 ≤ e then (n * Nat.pow 2 e.toNat, 1) else (n, Nat.pow 2 (-e).toNat)

/-- The number nearest to the positive fraction `n / d`. -/
def ofFraction (negative : Bool) (n d : Nat) : Binary64 :=
  -- The quotient by `2 ^ e` lies between `2 ^ 51` and `2 ^ 53`, or the next lower exponent is due.
  let guess : Int := (n.log2 : Int) - d.log2 - 52
  let quotient (e : Int) : Nat × Nat :=
    if 0 ≤ e then (n, d * Nat.pow 2 e.toNat) else (n * Nat.pow 2 (-e).toNat, d)
  let lower := (quotient guess).1 / (quotient guess).2 < Nat.pow 2 52
  let exponent := max minExponent (if lower then guess - 1 else guess)
  let mantissa := roundDiv (quotient exponent).1 (quotient exponent).2
  let (mantissa, exponent) :=
    if mantissa = Nat.pow 2 53 then (Nat.pow 2 52, exponent + 1) else (mantissa, exponent)
  if maxExponent < exponent then .infinite negative else .finite negative mantissa exponent

/-- The number nearest to `digits * 10 ^ exponent`. -/
def ofDecimal (negative : Bool) (digits : Nat) (exponent : Int) : Binary64 :=
  if digits = 0 then .finite negative 0 minExponent
  else
    let leading := exponent + digits.log2 / 3
    -- Beyond these bounds no power of ten needs to be computed.
    if 400 < exponent then .infinite negative
    else if leading < -400 then .finite negative 0 minExponent
    else if 0 ≤ exponent then ofFraction negative (digits * Nat.pow 10 exponent.toNat) 1
    else ofFraction negative digits (Nat.pow 10 (-exponent).toNat)

/-- The exact value of a number as a fraction, unless it is infinite or none. -/
def fraction? : Binary64 → Option (Int × Nat)
  | .finite negative mantissa exponent =>
    let (n, d) := scale mantissa exponent
    some (if negative then -(n : Int) else n, d)
  | _ => none

end Binary64

end LuaAccessors
