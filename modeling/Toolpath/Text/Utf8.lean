import Toolpath.Text.Basic

/-!
Texts as bytes. `decodeLossy` takes the longest start of a sequence that could still be a character, and
puts one replacement character for it where the sequence breaks off.
-/

namespace Toolpath.Text.Utf8

abbrev Bytes := List UInt8

def encode (t : Text) : Bytes := t.flatMap String.utf8EncodeChar

def lead? (b : Nat) : Option (Nat × List (Nat × Nat)) :=
  let tail := (0x80, 0xBF)
  if b < 0x80 then some (b, [])
  else if b < 0xC2 then none
  else if b < 0xE0 then some (b - 0xC0, [tail])
  else if b = 0xE0 then some (0, [(0xA0, 0xBF), tail])
  else if b = 0xED then some (13, [(0x80, 0x9F), tail])
  else if b < 0xF0 then some (b - 0xE0, [tail, tail])
  else if b = 0xF0 then some (0, [(0x90, 0xBF), tail, tail])
  else if b < 0xF4 then some (b - 0xF0, [tail, tail, tail])
  else if b = 0xF4 then some (4, [(0x80, 0x8F), tail, tail])
  else none

def follow (value : Nat) : List (Nat × Nat) → Bytes → Option Nat × Bytes
  | [], r => (some value, r)
  | _ :: _, [] => (none, [])
  | (low, high) :: ranges, b :: r =>
    if low ≤ b.toNat ∧ b.toNat ≤ high then follow (64 * value + (b.toNat - 0x80)) ranges r else (none, b :: r)

theorem length_follow_le (value : Nat) (ranges : List (Nat × Nat)) (r : Bytes) :
    (follow value ranges r).2.length ≤ r.length := by
  induction ranges generalizing value r with
  | nil => simp [follow]
  | cons range ranges ih =>
    cases r with
    | nil => simp [follow]
    | cons b r =>
      simp only [follow]
      split
      · exact Nat.le_succ_of_le (ih _ r)
      · exact Nat.le_refl _

def next (b : UInt8) (r : Bytes) : Option Char × Bytes :=
  match lead? b.toNat with
  | some (value, ranges) => ((follow value ranges r).1.map Char.ofNat, (follow value ranges r).2)
  | none => (none, r)

theorem length_next_le (b : UInt8) (r : Bytes) : (next b r).2.length ≤ r.length := by
  rw [next]
  split
  · exact length_follow_le ..
  · exact Nat.le_refl _

def characters : Bytes → List (Option Char)
  | [] => []
  | b :: r => (next b r).1 :: characters (next b r).2
termination_by r => r.length
decreasing_by exact Nat.lt_succ_of_le (length_next_le b r)

def decode? (b : Bytes) : Option Text := (characters b).mapM id

def decodeLossy (b : Bytes) : Text := (characters b).map fun c => c.getD '\uFFFD'

end Toolpath.Text.Utf8
