/-!
Doubles as exact numbers. `Float.exact` reads the bits of a double as sign, mantissa and exponent of
two; `nearest` goes back to the double closest to such a number. Rounding, square root and distance
are computed between the two in whole numbers.
-/

namespace Toolpath.Number

inductive Tie
  | toEven
  | awayFromZero
  deriving DecidableEq, Repr

def roundDiv (tie : Tie) (num den : Nat) : Nat :=
  let q := num / den
  let r := num % den
  if 2 * r < den then q
  else if den < 2 * r then q + 1
  else match tie with
    | .toEven => if q % 2 = 0 then q else q + 1
    | .awayFromZero => q + 1

/-- The number `mantissa * 2 ^ exponent`, negated if `negative`; the sign of zero is kept. -/
structure Dyadic where
  negative : Bool
  mantissa : Nat
  exponent : Int
  deriving DecidableEq, Repr

namespace Dyadic

def fraction (d : Dyadic) (scale : Nat) : Nat × Nat :=
  match d.exponent with
  | .ofNat e => (d.mantissa * Nat.pow 2 e * scale, 1)
  | .negSucc e => (d.mantissa * scale, Nat.pow 2 (e + 1))

def floor (d : Dyadic) : Int :=
  let (num, den) := d.fraction 1
  let m : Int := num
  (if d.negative then -m else m) / den

end Dyadic

inductive Exact
  | nan
  | infinite (negative : Bool)
  | finite (value : Dyadic)
  deriving DecidableEq, Repr

def exact (x : Float) : Exact :=
  let bits := x.toBits.toNat
  let negative := bits / Nat.pow 2 63 = 1
  let e : Nat := bits / Nat.pow 2 52 % Nat.pow 2 11
  let m := bits % Nat.pow 2 52
  if e = 2047 then if m = 0 then .infinite negative else .nan
  else if e = 0 then .finite ⟨negative, m, -1074⟩
  else .finite ⟨negative, m + Nat.pow 2 52, (e : Int) - 1075⟩

def nan : Float := Float.ofBits 0x7FF8000000000000

def infinity (negative : Bool) : Float :=
  if negative then Float.ofBits 0xFFF0000000000000 else Float.ofBits 0x7FF0000000000000

def nearestMagnitude (m : Nat) (e : Int) : Float :=
  if m = 0 then Float.ofBits 0
  else
    let unit : Int := max (e + m.log2 - 52) (-1074)
    let q := match e - unit with
      | .ofNat k => m * Nat.pow 2 k
      | .negSucc k => roundDiv .toEven m (Nat.pow 2 (k + 1))
    let bits := q + (unit + 1074).toNat * Nat.pow 2 52
    if bits < 0x7FF0000000000000 then Float.ofBits (UInt64.ofNat bits) else infinity false

def nearest (d : Dyadic) : Float :=
  if d.negative then -nearestMagnitude d.mantissa d.exponent else nearestMagnitude d.mantissa d.exponent

def roundHalfAway (x : Float) : Float :=
  match exact x with
  | .finite ⟨negative, m, .negSucc e⟩ =>
    nearest ⟨negative, roundDiv .awayFromZero m (Nat.pow 2 (e + 1)), 0⟩
  | _ => x

def sqrtFloor : Nat → Nat → Nat
  | 0, _ => 0
  | fuel + 1, n =>
    if n = 0 then 0
    else
      let r := 2 * sqrtFloor fuel (n / 4)
      if (r + 1) * (r + 1) ≤ n then r + 1 else r

def sqrtNearest (m : Nat) (e : Int) : Float :=
  -- The root is taken with sixty digits below its leading one or more, and a remainder is kept as one further
  -- digit.
  let guard : Nat := 60
  let wide := m * Nat.pow 4 guard
  let r := sqrtFloor (wide.log2 / 2 + 1) wide
  let sticky := if r * r = wide then 0 else 1
  nearestMagnitude (2 * r + sticky) (e - guard - 1)

def hypot (x y : Float) : Float :=
  -- An infinite component counts before a NaN.
  match exact x, exact y with
  | .infinite _, _ => infinity false
  | _, .infinite _ => infinity false
  | .finite a, .finite b =>
    let e := min a.exponent b.exponent
    let p := a.mantissa * Nat.pow 2 (a.exponent - e).toNat
    let q := b.mantissa * Nat.pow 2 (b.exponent - e).toNat
    sqrtNearest (p * p + q * q) e
  | _, _ => nan

end Toolpath.Number
