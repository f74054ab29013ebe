import Toolpath.Text.Basic

/-!
Ranges of characters as ranges of bytes: the encodings of a range of characters are the products of some
sequences of byte ranges.
-/

namespace Toolpath.Text.Utf8

abbrev ByteRange := Nat × Nat

def pairBytes (lo hi : Nat) : List ByteRange :=
  (String.utf8EncodeChar (Char.ofNat lo)).zipWith (fun a b => (a.toNat, b.toNat))
    (String.utf8EncodeChar (Char.ofNat hi))

def sequences : Nat → Nat → Nat → List (List ByteRange)
  -- A range is cut where the number of bytes changes, and where the last bytes do not run through all their values.
  | 0, _, _ => []
  | fuel + 1, lo, hi =>
    if hi < lo then []
    else
      let cut (a : Nat) : List (List ByteRange) := sequences fuel lo a ++ sequences fuel (a + 1) hi
      match [0x7F, 0x7FF, 0xFFFF].find? fun n => lo ≤ n && n < hi with
      | some n => cut n
      | none =>
        if hi ≤ 0x7F then [[(lo, hi)]]
        else
          match [64, 4096, 262144].find? fun m => lo / m ≠ hi / m && (lo % m ≠ 0 || hi % m ≠ m - 1) with
          | some m => if lo % m ≠ 0 then cut (lo / m * m + (m - 1)) else cut (hi / m * m - 1)
          | none => [pairBytes lo hi]

def mostCuts : Nat := 32

end Toolpath.Text.Utf8
