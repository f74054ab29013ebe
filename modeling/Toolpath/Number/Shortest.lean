import Toolpath.Number.Fixed

/-!
The shortest decimal that reads back as a given double, and of those the nearest. `Digits.plain` and
`Digits.scientific` write it.
-/

namespace Toolpath.Number

structure Digits where
  digits : Nat
  exponent : Int
  deriving DecidableEq, Repr

/-- Twice the bounds of the numbers that round to `m * 2 ^ e`, and `m` itself, over one unit: the
lower bound is nearer when `m` is the least mantissa of its binade. -/
structure Interval where
  lower : Nat
  middle : Nat
  upper : Nat
  exponent : Int
  closed : Bool

def Interval.of (d : Dyadic) : Interval :=
  let m := 4 * d.mantissa
  let below := if d.mantissa = Nat.pow 2 52 ∧ d.exponent ≠ -1074 then 1 else 2
  ⟨m - below, m, m + 2, d.exponent - 2, d.mantissa % 2 = 0⟩

def Interval.onGrid? (tie : Tie) (i : Interval) (k : Int) : Option Nat :=
  let (up, den) : Nat × Nat := match i.exponent with
    | .ofNat e => (Nat.pow 2 e, 1)
    | .negSucc e => (1, Nat.pow 2 (e + 1))
  let (up, den) : Nat × Nat := match k with
    | .ofNat n => (up, den * Nat.pow 10 n)
    | .negSucc n => (up * Nat.pow 10 (n + 1), den)
  let mid := i.middle * up
  let inside (q : Nat) : Bool :=
    if i.closed then i.lower * up ≤ q * den && q * den ≤ i.upper * up
    else i.lower * up < q * den && q * den < i.upper * up
  let q := mid / den
  match inside q, inside (q + 1) with
  | false, false => none
  | true, false => some q
  | false, true => some (q + 1)
  | true, true => some (roundDiv tie mid den)

def Digits.normal : Nat → Digits → Digits
  | 0, d => d
  | fuel + 1, d => if d.digits ≠ 0 ∧ d.digits % 10 = 0 then normal fuel ⟨d.digits / 10, d.exponent + 1⟩ else d

def searchGrids (tie : Tie) (i : Interval) : Nat → Int → Digits
  | 0, k => ⟨0, k⟩
  | fuel + 1, k =>
    match i.onGrid? tie k with
    | some q => if q = 0 then searchGrids tie i fuel (k - 1) else Digits.normal 20 ⟨q, k⟩
    | none => searchGrids tie i fuel (k - 1)

def shortest (tie : Tie) (d : Dyadic) : Digits :=
  let (num, den) := d.fraction 1
  let top : Int :=
    if den ≤ num then (Text.ofNat (num / den)).length
    else 2 - ((Text.ofNat (den / num)).length : Int)
  searchGrids tie (.of d) 22 top

def Digits.plain (d : Digits) : Text :=
  match d.exponent with
  | .ofNat e => Text.ofNat d.digits ++ List.replicate e '0' ++ ['.', '0']
  | .negSucc e => withPoint d.digits (e + 1)

def Digits.scientific (d : Digits) : Text :=
  let t := Text.ofNat d.digits
  let e : Int := d.exponent + t.length - 1
  let mantissa := match t with
    | c :: x :: r => c :: '.' :: x :: r
    | t => t
  mantissa ++ 'e' :: (if e < 0 then '-' else '+') :: Text.ofNat e.natAbs

end Toolpath.Number
