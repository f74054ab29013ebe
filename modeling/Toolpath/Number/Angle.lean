import Toolpath.Number.Binary

/-!
Cosine and sine of an angle of at most about one full turn, summed from their power series in
fixed-point numbers and rounded once.
-/

namespace Toolpath.Number

def seriesPlaces : Nat := 192

def seriesUnit : Nat := Nat.pow 2 seriesPlaces

def powerSeries (square : Int) : Nat → Nat → Int → Int → Int
  -- `term` is the first of the terms `±x^j/j!` for `j = k, k + 2, …`, and `square` is the square of the angle.
  | 0, _, _, sum => sum
  | fuel + 1, k, term, sum =>
    let next := -(term * square) / (seriesUnit * ((k + 1) * (k + 2)) : Nat)
    powerSeries square fuel (k + 2) next (sum + term)

def fixedPoint (d : Dyadic) : Int :=
  let (num, den) := d.fraction seriesUnit
  if d.negative then -(num / den : Nat) else (num / den : Nat)

def ofFixedPoint (s : Int) : Float := nearest ⟨s < 0, s.natAbs, -seriesPlaces⟩

def cos (x : Float) : Float :=
  match exact x with
  | .finite d =>
    let a := fixedPoint d
    ofFixedPoint (powerSeries (a * a / seriesUnit) 60 0 seriesUnit 0)
  | _ => nan

def sin (x : Float) : Float :=
  match exact x with
  | .finite d =>
    let a := fixedPoint d
    if a = 0 then x else ofFixedPoint (powerSeries (a * a / seriesUnit) 60 1 a 0)
  | _ => nan

end Toolpath.Number
