import Toolpath.Number.Binary
import Toolpath.Text.Basic

/-!
Numbers with a fixed count of decimal places. `fixed` prints the exact value of a double, halves to
even; `toFixed` first rounds the scaled double, halves away from zero.
-/

namespace Toolpath.Number

def padLeft (width : Nat) (pad : Char) (t : Text) : Text := List.replicate (width - t.length) pad ++ t

def withPoint (n places : Nat) : Text :=
  if places = 0 then Text.ofNat n
  else Text.ofNat (n / Nat.pow 10 places) ++ '.' :: padLeft places '0' (Text.ofNat (n % Nat.pow 10 places))

def signed (negative : Bool) (t : Text) : Text := if negative then '-' :: t else t

def fixed (x : Float) (places : Nat) : Text :=
  match exact x with
  | .nan => ['N', 'a', 'N']
  | .infinite negative => signed negative ['i', 'n', 'f']
  | .finite d =>
    let (num, den) := d.fraction (Nat.pow 10 places)
    signed d.negative (withPoint (roundDiv .toEven num den) places)

def powLoop : Nat → Float → Nat → Float → Float
  | 0, _, _, acc => acc
  | fuel + 1, base, n, acc =>
    let acc := if n % 2 = 1 then acc * base else acc
    if n / 2 = 0 then acc else powLoop fuel (base * base) (n / 2) acc

def tenTo (n : Nat) : Float := powLoop (n.log2 + 1) (Float.ofNat 10) n (Float.ofNat 1)

def toFixed (x : Float) (places : Nat) : Text :=
  -- A value too large to be scaled is printed as it is.
  let scale := tenTo places
  let rounded := roundHalfAway (x * scale) / scale
  fixed (if rounded.isFinite then rounded else x) places

end Toolpath.Number
