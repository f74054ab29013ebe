import Mathlib.Order.MinMax
import Mathlib.Tactic.Lemma
import Toolpath.Text.Utf8

/-!
Offsets in characters and in bytes. A table has the byte at which each character starts; offsets beyond the
end count as the end.
-/

namespace Toolpath.Text

open Utf8

def startsFrom : Nat → Text → List Nat
  | n, [] => [n]
  | n, c :: t => n :: startsFrom (n + c.utf8Size) t

def byteStarts (t : Text) : List Nat := startsFrom 0 t

def byteOffset (t : Text) (i : Nat) : Nat := (byteStarts t)[i]?.getD (encode t).length

-- A byte inside of a character has the offset of the next one.
def charOffset (t : Text) (b : Nat) : Nat := (byteStarts t).findIdx (min b (encode t).length ≤ ·)

@[simp] lemma encode_append (t u : Text) : encode (t ++ u) = encode t ++ encode u := List.flatMap_append

lemma encode_cons (c : Char) (t : Text) : encode (c :: t) = String.utf8EncodeChar c ++ encode t := List.flatMap_cons

lemma length_encode_cons (c : Char) (t : Text) : (encode (c :: t)).length = c.utf8Size + (encode t).length := by
  simp [encode_cons]

lemma getElem?_startsFrom (n : Nat) (t : Text) (i : Nat) :
    (startsFrom n t)[i]? = if i ≤ t.length then some (n + (encode (t.take i)).length) else none := by
  induction t generalizing n i with
  | nil => cases i <;> simp [startsFrom, encode]
  | cons c t ih =>
    cases i with
    | zero => simp [startsFrom, encode]
    | succ i => simp [startsFrom, ih, length_encode_cons, Nat.add_assoc]

lemma byteOffset_eq (t : Text) (i : Nat) : byteOffset t i = (encode (t.take i)).length := by
  rw [byteOffset, byteStarts, getElem?_startsFrom]
  split
  · simp
  · rename_i h
    rw [List.take_of_length_le (Nat.le_of_not_le h)]
    rfl

lemma encode_eq_append (t : Text) (i : Nat) : encode t = encode (t.take i) ++ encode (t.drop i) := by
  rw [← encode_append, List.take_append_drop]

lemma encode_take (t : Text) (i : Nat) : encode (t.take i) = (encode t).take (byteOffset t i) := by
  rw [byteOffset_eq, encode_eq_append t i, List.take_left]

lemma encode_drop (t : Text) (i : Nat) : encode (t.drop i) = (encode t).drop (byteOffset t i) := by
  rw [byteOffset_eq, encode_eq_append t i, List.drop_left]

lemma byteOffset_mono (t : Text) : Monotone (byteOffset t) := by
  intro i j h
  rw [byteOffset_eq, byteOffset_eq, ← List.take_append_drop i (t.take j), List.take_take, Nat.min_eq_left h]
  simp

lemma byteOffset_drop (t : Text) (i j : Nat) : byteOffset (t.drop i) (j - i) = byteOffset t j - byteOffset t i := by
  rcases Nat.le_total i j with h | h
  · obtain ⟨k, rfl⟩ := Nat.exists_eq_add_of_le h
    simp [byteOffset_eq, List.take_add]
  · have hle := byteOffset_mono t h
    rw [Nat.sub_eq_zero_of_le h, Nat.sub_eq_zero_of_le hle, byteOffset_eq]
    rfl

lemma encode_slice (t : Text) (i j : Nat) :
    encode ((t.take j).drop i) = ((encode t).take (byteOffset t j)).drop (byteOffset t i) := by
  rw [List.drop_take, List.drop_take, encode_take, encode_drop, byteOffset_drop]

lemma byteOffset_lt {t : Text} {i j : Nat} (h : i < j) (hj : j ≤ t.length) : byteOffset t i < byteOffset t j := by
  have hi : i < t.length := Nat.lt_of_lt_of_le h hj
  have hsize : byteOffset t (i + 1) = byteOffset t i + t[i].utf8Size := by
    rw [byteOffset_eq, byteOffset_eq, List.take_succ_eq_append_getElem hi, encode_append, List.length_append,
      length_encode_cons]
    rfl
  calc byteOffset t i < byteOffset t (i + 1) := by have hc := Char.utf8Size_pos t[i]; omega
    _ ≤ byteOffset t j := byteOffset_mono t h

lemma charOffset_byteOffset {t : Text} {i : Nat} (h : i ≤ t.length) : charOffset t (byteOffset t i) = i := by
  have hget : ∀ j ≤ t.length, (byteStarts t)[j]? = some (byteOffset t j) := by
    intro j hj
    rw [byteStarts, getElem?_startsFrom, if_pos hj, byteOffset_eq, Nat.zero_add]
  have hlength : byteOffset t t.length = (encode t).length := by rw [byteOffset_eq, List.take_length]
  obtain ⟨hi, he⟩ := List.getElem?_eq_some_iff.mp (hget i h)
  rw [charOffset, ← hlength, Nat.min_eq_left (byteOffset_mono t h), List.findIdx_eq hi]
  refine ⟨decide_eq_true (Nat.le_of_eq he.symm), fun j hj => decide_eq_false (Nat.not_le.mpr ?_)⟩
  obtain ⟨_, he'⟩ := List.getElem?_eq_some_iff.mp (hget j (Nat.le_of_lt (Nat.lt_of_lt_of_le hj h)))
  rw [he']
  exact byteOffset_lt hj h

end Toolpath.Text
