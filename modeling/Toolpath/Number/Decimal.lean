import Toolpath.Number.Binary
import Toolpath.Text.Digit

/-!
Reading decimal numbers. `numberPrefix?` cuts off the longest part of a text that looks like a
number; `readFloat?` gives the nearest double of a whole text, or nothing if it is no number.
-/

namespace Toolpath.Number

def cutSign : Text → Text × Text
  | '+' :: r => (['+'], r)
  | '-' :: r => (['-'], r)
  | t => ([], t)

def cutMantissa? (t : Text) : Option (Text × Text) :=
  match t.span Text.isDigit with
  | ([], '.' :: r) =>
    match r.span Text.isDigit with
    | ([], _) => none
    | (fraction, r) => some ('.' :: fraction, r)
  | ([], _) => none
  | (whole, '.' :: r) =>
    let (fraction, r) := r.span Text.isDigit
    some (whole ++ '.' :: fraction, r)
  | (whole, r) => some (whole, r)

def cutExponent (t : Text) : Text × Text :=
  match t with
  | [] => ([], [])
  | c :: r =>
    if c = 'e' ∨ c = 'E' then
      let (sign, r) := cutSign r
      match r.span Text.isDigit with
      | ([], _) => ([], t)
      | (digits, r) => (c :: sign ++ digits, r)
    else ([], t)

def numberPrefix? (t : Text) : Option Text := do
  let (sign, r) := cutSign t
  let (mantissa, r) ← cutMantissa? r
  return sign ++ mantissa ++ (cutExponent r).1

/-- The decimal `digits * 10 ^ exponent`, negated if `negative`. -/
structure Decimal where
  negative : Bool
  digits : Nat
  exponent : Int
  deriving DecidableEq, Repr

namespace Decimal

def magnitude (d : Decimal) : Float :=
  -- Outside of the range of all doubles the power of ten is not formed.
  let top := d.exponent + (Text.ofNat d.digits).length
  if d.digits = 0 then Float.ofNat 0
  else if top > 310 then infinity false
  else if top < -330 then Float.ofNat 0
  else Float.ofScientific d.digits (d.exponent < 0) d.exponent.natAbs

def toFloat (d : Decimal) : Float := if d.negative then -d.magnitude else d.magnitude

end Decimal

def digitsValue? (t : Text) : Option Nat :=
  t.foldl (fun acc c => acc.bind fun n =>
    if Text.isAsciiDigit c then some (10 * n + (c.toNat - 48)) else none) (some 0)

def readDecimal? (t : Text) : Option Decimal := do
  let (sign, r) := cutSign t
  let (whole, r) := r.span Text.isAsciiDigit
  let (fraction, r) := match r with
    | '.' :: r => r.span Text.isAsciiDigit
    | r => ([], r)
  if whole.isEmpty ∧ fraction.isEmpty then none
  let digits ← digitsValue? (whole ++ fraction)
  let shift : Int ← match r with
    | [] => some 0
    | c :: r =>
      if c = 'e' ∨ c = 'E' then
        let (s, r) := cutSign r
        if r.isEmpty then none
        else (digitsValue? r).map fun n => if s = ['-'] then -(n : Int) else n
      else none
  return ⟨sign = ['-'], digits, shift - fraction.length⟩

def readFloat? (t : Text) : Option Float :=
  let (sign, r) := cutSign t
  let word := String.ofList (r.map Text.lowerAscii)
  if word = "inf" ∨ word = "infinity" then some (infinity (sign = ['-']))
  else if word = "nan" then some nan
  else (readDecimal? t).map Decimal.toFloat

def parseNumber (t : Text) : Float :=
  -- A digit beyond ASCII belongs to the number and makes it a NaN.
  ((numberPrefix? (Text.trimStart t)).bind readFloat?).getD nan

end Toolpath.Number
