import LuaAccessors.Value

/-!
# Plain scalars

What an unquoted scalar of a settings document means: null, a truth value, an integer, a floating
point number, or else the text itself. An integer may be written in base two (`0b`), eight (a leading
zero), ten, sixteen (`0x`) or sixty (parts between colons); a floating point number has a point, and
may be written in base sixty, too. Underscores between digits do not count.
-/

namespace LuaAccessors.Settings

/-! ## §1 Words -/

/-- The words for null. -/
def nullWords : List Text := ["", "~", "null", "Null", "NULL"].map String.toList

/-- The words for true. -/
def trueWords : List Text :=
  ["yes", "Yes", "YES", "true", "True", "TRUE", "on", "On", "ON"].map String.toList

/-- The words for false. -/
def falseWords : List Text :=
  ["no", "No", "NO", "false", "False", "FALSE", "off", "Off", "OFF"].map String.toList

/-! ## §2 Digits -/

/-- The value of a hexadecimal digit. -/
def digitValue (c : Char) : Nat :=
  if c.isDigit then c.toNat - 48 else c.toLower.toNat - 87

/-- The number that digits write in a base; underscores do not count. -/
def ofDigits (base : Nat) (t : Text) : Nat :=
  (t.filter (· != '_')).foldl (fun n c => n * base + digitValue c) 0

/-- A digit or an underscore. -/
def isDigitPart (c : Char) : Bool := c.isDigit || c == '_'

/-- The sign in front of a number, and the number without it. -/
def splitSign : Text → Bool × Text
  | '-' :: rest => (true, rest)
  | '+' :: rest => (false, rest)
  | t => (false, t)

/-! ## §3 Integers -/

/-- A part behind a colon of a number in base sixty. -/
def isSixtieth : Text → Bool
  | [c] => c.isDigit
  | [c, d] => '0' ≤ c && c ≤ '5' && d.isDigit
  | _ => false

/-- The number that an unsigned integer writes. -/
def unsigned? (t : Text) : Option Nat :=
  match t with
  | '0' :: [] => some 0
  | '0' :: 'b' :: c :: ds =>
    if (c :: ds).all fun d => d == '0' || d == '1' || d == '_' then some (ofDigits 2 (c :: ds))
    else none
  | '0' :: 'x' :: c :: ds =>
    if (c :: ds).all fun d => isDigitPart d || ('a' ≤ d.toLower && d.toLower ≤ 'f') then
      some (ofDigits 16 (c :: ds))
    else none
  | '0' :: ds =>
    if ds.all fun d => ('0' ≤ d && d ≤ '7') || d == '_' then some (ofDigits 8 ds) else none
  | c :: _ =>
    if '1' ≤ c && c ≤ '9' then
      match Text.splitOn ':' t with
      | first :: parts =>
        if first.all isDigitPart && parts.all isSixtieth then
          some (parts.foldl (fun n p => n * 60 + ofDigits 10 p) (ofDigits 10 first))
        else none
      | [] => none
    else none
  | [] => none

/-- The integer that a scalar writes. -/
def integer? (t : Text) : Option Int :=
  let (negative, digits) := splitSign t
  (unsigned? digits).map fun n => if negative then -(n : Int) else n

/-! ## §4 Floating point numbers -/

/-- The exponent behind the digits of a number: nothing, or `e` with a sign and digits. -/
def exponent? : Text → Option Int
  | [] => some 0
  | e :: sign :: c :: ds =>
    if (e == 'e' || e == 'E') && (sign == '-' || sign == '+') && (c :: ds).all Char.isDigit then
      let n := ofDigits 10 (c :: ds)
      some (if sign == '-' then -(n : Int) else n)
    else none
  | _ => none

/-- The fraction that digits with a point, or without one, write. -/
def digitsFraction (t : Text) : Nat × Nat :=
  let fraction := ((t.dropWhile (· != '.')).drop 1).filter Char.isDigit
  (ofDigits 10 (t.filter (· != '.')), Nat.pow 10 fraction.length)

/-- The fraction nearest to a fraction among those that are floating point numbers. -/
def rounded (n d : Nat) : Nat × Nat :=
  if n = 0 then (0, 1)
  else match (Binary64.ofFraction false n d).fraction? with
    | some (n, d) => (n.natAbs, d)
    | none => (n, d)

/-- The sum of digits weighted by powers of sixty from `base` on, the least first; every part, every
product and every sum is rounded. -/
def sixtiethSum (base : Nat) (sum : Nat × Nat) : List Text → Nat × Nat
  | [] => sum
  | digits :: rest =>
    let part := rounded (digitsFraction digits).1 (digitsFraction digits).2
    let product := rounded (part.1 * base) part.2
    sixtiethSum (base * 60)
      (rounded (sum.1 * product.2 + product.1 * sum.2) (sum.2 * product.2)) rest

/-- The floating point number that an unsigned scalar writes in base sixty: whole parts, and a last
one with a point. -/
def sixtiethFloat? (negative : Bool) (number : Text) : Option Binary64 :=
  match (Text.splitOn ':' number).reverse with
  | last :: middle :: more =>
    let whole := last.takeWhile Char.isDigit
    let parts := middle :: more
    let first := parts.getLastD []
    if isSixtieth whole ∧ (last.drop whole.length).head? = some '.'
        ∧ (last.drop (whole.length + 1)).all isDigitPart
        ∧ parts.dropLast.all isSixtieth ∧ first.head?.any Char.isDigit ∧ first.all isDigitPart then
      let (n, d) := sixtiethSum 1 (0, 1) (last :: parts)
      some (if n = 0 then .finite negative 0 Binary64.minExponent else .ofFraction negative n d)
    else none
  | _ => none

/-- The floating point number that a scalar writes. -/
def float? (t : Text) : Option Binary64 :=
  let (negative, number) := splitSign t
  if [".inf", ".Inf", ".INF"].any fun w => w.toList == number then some (.infinite negative)
  else if [".nan", ".NaN", ".NAN"].any fun w => w.toList == t then some .notANumber
  else
    let whole := number.takeWhile isDigitPart
    match number.drop whole.length with
    | '.' :: rest =>
      let fraction := rest.takeWhile isDigitPart
      -- Digits stand in front of the point, or else right behind it and without a sign.
      let wellFormed := match whole, fraction with
        | c :: _, _ => c.isDigit
        | [], c :: _ => c.isDigit && number == t
        | [], [] => false
      if wellFormed then
        (exponent? (rest.drop fraction.length)).map fun e =>
          .ofDecimal negative (ofDigits 10 (whole ++ fraction))
            (e - (fraction.filter Char.isDigit).length)
      else none
    | _ => sixtiethFloat? negative number

/-! ## §5 Scalars -/

/-- The value of a plain scalar. -/
def plainScalar (t : Text) : Value :=
  if nullWords.contains t then .null
  else if trueWords.contains t then .boolean true
  else if falseWords.contains t then .boolean false
  else match integer? t, float? t with
    | some n, _ => .integer n
    | none, some x => .float x
    | none, none => .text t

/-- A leading zero makes an integer octal, and without a point there is no floating point number. -/
example : integer? "012".toList = some 10 ∧ float? "1e3".toList = none := by decide

/-- An hour and a half are ninety minutes. -/
example : integer? "1:30".toList = some 90
    ∧ float? "1:30.5".toList = some (.ofDecimal false 905 (-1)) := by decide +kernel

end LuaAccessors.Settings
