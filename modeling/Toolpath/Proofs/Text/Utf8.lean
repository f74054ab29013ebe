import Mathlib.Tactic.Lemma
import Mathlib.Tactic.IntervalCases
import Toolpath.Text.Utf8

/-!
Texts are read back from their bytes: each character from its own.
-/

namespace Toolpath.Text.Utf8

variable {value low high : Nat} {ranges : List (Nat × Nat)} {r : Bytes}

lemma follow_cons {n : Nat} (hlow : low ≤ n) (hhigh : n ≤ high) (hn : n < 256) :
    follow value ((low, high) :: ranges) (UInt8.ofNat n :: r) = follow (64 * value + (n - 0x80)) ranges r := by
  have hb : (UInt8.ofNat n).toNat = n := UInt8.toNat_ofNat_of_lt' hn
  rw [follow, hb, if_pos ⟨hlow, hhigh⟩]

lemma next_of_lead {n : Nat} (hn : n < 256) (h : lead? n = some (value, ranges)) :
    next (UInt8.ofNat n) r = ((follow value ranges r).1.map Char.ofNat, (follow value ranges r).2) := by
  have hb : (UInt8.ofNat n).toNat = n := UInt8.toNat_ofNat_of_lt' hn
  rw [next, hb, h]

lemma lead?_two {n : Nat} (hlow : 0xC2 ≤ n) (hhigh : n < 0xE0) : lead? n = some (n - 0xC0, [(0x80, 0xBF)]) := by
  rw [lead?, if_neg (by omega), if_neg (by omega), if_pos hhigh]

lemma lead?_three {n : Nat} (hlow : 0xE0 ≤ n) (hhigh : n < 0xF0) : lead? n =
    some (n - 0xE0, [(if n = 0xE0 then 0xA0 else 0x80, if n = 0xED then 0x9F else 0xBF), (0x80, 0xBF)]) := by
  interval_cases n <;> rfl

lemma lead?_four {n : Nat} (hlow : 0xF0 ≤ n) (hhigh : n ≤ 0xF4) : lead? n =
    some (n - 0xF0, [(if n = 0xF0 then 0x90 else 0x80, if n = 0xF4 then 0x8F else 0xBF), (0x80, 0xBF), (0x80, 0xBF)]) := by
  interval_cases n <;> rfl

lemma next_encode (c : Char) (r : Bytes) :
    ∃ b bs, String.utf8EncodeChar c = b :: bs ∧ next b (bs ++ r) = (some c, r) := by
  have hvalid : c.val.toNat < 0xD800 ∨ 0xDFFF < c.val.toNat ∧ c.val.toNat < 0x110000 := c.valid
  have hchar : Char.ofNat c.val.toNat = c := Char.ofNat_toNat c
  rw [String.utf8EncodeChar]
  generalize c.val.toNat = v at *
  split_ifs with hone htwo hthree <;> refine ⟨_, _, rfl, ?_⟩
  · rw [next_of_lead (by omega) (by rw [lead?, if_pos (by omega)]), List.nil_append, follow, Option.map_some, hchar]
  · rw [next_of_lead (by omega) (lead?_two (by omega) (by omega)), List.cons_append,
      follow_cons (by omega) (by omega) (by omega), List.nil_append, follow, Option.map_some]
    have hv : 64 * (v / 64 % 32 + 192 - 0xC0) + (v % 64 + 128 - 0x80) = v := by omega
    rw [hv, hchar]
  · rw [next_of_lead (by omega) (lead?_three (by omega) (by omega)), List.cons_append,
      follow_cons (by split_ifs <;> omega) (by split_ifs <;> omega) (by omega), List.cons_append,
      follow_cons (by omega) (by omega) (by omega), List.nil_append, follow, Option.map_some]
    have hv : 64 * (64 * (v / 4096 % 16 + 224 - 0xE0) + (v / 64 % 64 + 128 - 0x80)) + (v % 64 + 128 - 0x80) = v := by omega
    rw [hv, hchar]
  · rw [next_of_lead (by omega) (lead?_four (by omega) (by omega)), List.cons_append,
      follow_cons (by split_ifs <;> omega) (by split_ifs <;> omega) (by omega), List.cons_append,
      follow_cons (by omega) (by omega) (by omega), List.cons_append,
      follow_cons (by omega) (by omega) (by omega), List.nil_append, follow, Option.map_some]
    have hv : 64 * (64 * (64 * (v / 262144 % 8 + 240 - 0xF0) + (v / 4096 % 64 + 128 - 0x80)) +
        (v / 64 % 64 + 128 - 0x80)) + (v % 64 + 128 - 0x80) = v := by omega
    rw [hv, hchar]

theorem characters_encode_append (t : Text) (r : Bytes) : characters (encode t ++ r) = t.map some ++ characters r := by
  induction t with
  | nil => rfl
  | cons c t ih =>
    obtain ⟨b, bs, hc, hn⟩ := next_encode c (encode t ++ r)
    have he : encode (c :: t) ++ r = b :: (bs ++ (encode t ++ r)) := by
      rw [encode, List.flatMap_cons, hc, List.cons_append, List.cons_append, List.append_assoc]
      rfl
    rw [he, characters, hn, ih]
    rfl

theorem decode?_encode (t : Text) : decode? (encode t) = some t := by
  have h := characters_encode_append t []
  rw [List.append_nil, characters, List.append_nil] at h
  rw [decode?, h, List.mapM_map]
  exact (List.mapM_pure (f := id)).trans (by rw [List.map_id]; rfl)

end Toolpath.Text.Utf8
