import Toolpath.Number.Decimal
import Toolpath.Proofs.Number.Conversion

/-!
Doubles from decimals. Each decimal gives the double nearest to it, whatever its exponent and however many digits
it has.
-/

namespace Toolpath.Number

open Float.Model Float.Model.UnpackedFloat

variable {x : Float} {s : Bool} {q : ℚ} {m n e : ℕ}

lemma denotes_toFloat (hm : 0 < m) (h : m < 2 ^ 53) : Denotes m.toUInt64.toFloat false m := by
  have hn : m.toUInt64.toNat = m := UInt64.toNat_ofNat_of_lt' (by norm_num; omega)
  have hr := rounds_ofNat hm
  have hrep := rounded_of_representable (representable_natCast h)
  have hd := hr.denotes (by rw [hrep]; exact natCast_lt_top h)
  rw [hrep] at hd
  rw [UInt64.toFloat, Float.Model.ofUInt64, UnpackedFloat.ofUInt64, hn]
  exact hd

lemma exact_powersOfTen : ∀ k : Fin 23, exact Float.exactlyRepresentablePowersOfTen[k] =
    .finite ⟨false, 5 ^ k.val * 2 ^ (52 - (5 ^ k.val).log2), k - (52 - (5 ^ k.val).log2 : ℕ)⟩ := by
  decide +kernel

lemma denotes_powersOfTen (he : e < Float.exactlyRepresentablePowersOfTen.size) :
    Denotes Float.exactlyRepresentablePowersOfTen[e] false (10 ^ e) := by
  refine ⟨_, _, exact_powersOfTen ⟨e, he⟩, ?_⟩
  generalize 52 - (5 ^ e).log2 = j
  rw [zpow_sub₀ (by norm_num), zpow_natCast, zpow_natCast]
  push_cast
  rw [mul_assoc, mul_div_cancel₀ _ (pow_ne_zero j (two_ne_zero (α := ℚ))), ← mul_pow]
  norm_num

lemma ofScientific_natCast (hm : 0 < m) (he : e ≤ 2048) : UnpackedFloat.ofScientific .binary64 m e =
    UnpackedFloat.mul .binary64
      (.finite .positive (m <<< 53) (-53) (by rw [Nat.shiftLeft_eq]; positivity))
      (.finite .positive (10 ^ e) 0 (by positivity)) := by
  have hbits : ((2 : ℤ) ^ Format.binary64.exponentBits) = 2048 := rfl
  rw [UnpackedFloat.ofScientific, dif_neg hm.ne', hbits, if_neg (by omega), if_neg (by omega), if_pos (by omega)]
  rfl

lemma ofScientific_neg (hm : 0 < m) (he : 0 < e) (h : e ≤ 2048 + m.log2) : UnpackedFloat.ofScientific .binary64 m (-e) =
    UnpackedFloat.div .binary64 (.finite .positive m 0 hm) (.finite .positive (10 ^ e) 0 (by positivity)) := by
  have hbits : ((2 : ℤ) ^ Format.binary64.exponentBits) = 2048 := rfl
  rw [UnpackedFloat.ofScientific, dif_neg hm.ne', hbits, if_neg (by omega), if_neg (by omega), if_neg (by omega)]
  congr 2
  simp

theorem rounds_scaledUp (hm : 0 < m) (he : e ≤ 2048) : Rounds (Float.ofScientific m false e) false (m * 10 ^ e) := by
  by_cases h : m < 2 ^ 53 ∧ e ≤ 22
  · rw [Float.ofScientific, dif_pos h]
    exact (denotes_toFloat hm h.1).mul (denotes_powersOfTen (Nat.lt_succ_of_le h.2))
  · have hpos : 0 < m <<< 53 := by
      rw [Nat.shiftLeft_eq]
      positivity
    have hbig : 2 ^ 52 ≤ m <<< 53 * 10 ^ e := by
      rw [Nat.shiftLeft_eq]
      exact le_mul_of_le_of_one_le (by omega) (Nat.one_le_pow e 10 (by norm_num))
    have hr := rounds_mul_finite (-53) 0 false false hpos (pow_pos (by norm_num : 0 < 10) e) (.inl hbig)
    have hv : ((m <<< 53 : ℕ) : ℚ) * 2 ^ (-53 : ℤ) * ((10 ^ e : ℕ) * 2 ^ (0 : ℤ)) = m * 10 ^ e := by
      rw [Nat.shiftLeft_eq]
      push_cast
      norm_num
      ring
    rw [hv] at hr
    have hofm : Float.ofScientific m false e = .ofModel (.pack (UnpackedFloat.ofScientific .binary64 m e)) := by
      rw [Float.ofScientific, dif_neg h]
      rfl
    rw [hofm, ofScientific_natCast hm he]
    exact hr

theorem rounds_scaledDown (hm : 0 < m) (he : 0 < e) (hle : e ≤ 2048 + m.log2) :
    Rounds (Float.ofScientific m true e) false (m / 10 ^ e) := by
  by_cases h : m < 2 ^ 53 ∧ e ≤ 22
  · rw [Float.ofScientific, dif_pos h]
    exact (denotes_toFloat hm h.1).div (denotes_powersOfTen (Nat.lt_succ_of_le h.2)) (by positivity)
  · have hr := rounds_div_finite 0 0 false false hm (pow_pos (by norm_num : 0 < 10) e)
    have hv : (m : ℚ) * 2 ^ (0 : ℤ) / ((10 ^ e : ℕ) * 2 ^ (0 : ℤ)) = m / 10 ^ e := by
      push_cast
      norm_num
    rw [hv] at hr
    have hofm : Float.ofScientific m true e = .ofModel (.pack (UnpackedFloat.ofScientific .binary64 m (-e))) := by
      rw [Float.ofScientific, dif_neg h]
      obtain ⟨k, rfl⟩ := Nat.exists_eq_add_of_lt he
      simp only [if_true]
      rfl
    rw [hofm, ofScientific_neg hm he hle]
    exact hr

lemma rounds_whole (hm : 0 < m) : Rounds (Float.ofScientific m false 0) false m := by
  have hr := rounds_scaledUp hm (e := 0) (by norm_num)
  rwa [pow_zero, mul_one] at hr

lemma length_ofNat_le_iff {k : ℕ} (hk : 0 < k) : (Text.ofNat m).length ≤ k ↔ m < 10 ^ k :=
  Nat.length_toDigits_le_iff (by norm_num) hk

lemma length_ofNat_le_log2 (m : ℕ) : (Text.ofNat m).length ≤ m.log2 + 1 := by
  rw [length_ofNat_le_iff m.log2.succ_pos]
  exact Nat.lt_log2_self.trans_le (Nat.pow_le_pow_left (by norm_num) _)

lemma pow_length_le (hm : 0 < m) : 10 ^ (Text.ofNat m).length ≤ m * 10 := by
  have hne : Nat.toDigits 10 m ≠ [] := Nat.toDigits_ne_nil
  obtain ⟨k, hk⟩ := Nat.exists_eq_succ_of_ne_zero (List.length_pos_of_ne_nil hne).ne'
  rw [Text.ofNat, hk, pow_succ]
  refine Nat.mul_le_mul_right 10 ?_
  rcases k.eq_zero_or_pos with rfl | hpos
  · rw [pow_zero]
    exact hm
  · have hlen : ¬ (Text.ofNat m).length ≤ k := by rw [Text.ofNat, hk]; omega
    rwa [length_ofNat_le_iff hpos, not_lt] at hlen

lemma bounds_of_length (hm : 0 < m) (k : ℤ) : (10 : ℚ) ^ (k + (Text.ofNat m).length - 1) ≤ m * 10 ^ k ∧
    (m : ℚ) * 10 ^ k < 10 ^ (k + (Text.ofNat m).length) := by
  have hten : (10 : ℚ) ≠ 0 := by norm_num
  have hpos : (0 : ℚ) < 10 ^ k := by positivity
  have hlow : ((10 : ℚ) ^ (Text.ofNat m).length) ≤ m * 10 := by exact_mod_cast pow_length_le hm
  have hup : (m : ℚ) < 10 ^ (Text.ofNat m).length := by
    exact_mod_cast (length_ofNat_le_iff (List.length_pos_of_ne_nil Nat.toDigits_ne_nil)).mp le_rfl
  rw [zpow_sub_one₀ hten, zpow_add₀ hten, zpow_natCast]
  constructor
  · rw [mul_comm (m : ℚ), mul_assoc]
    refine mul_le_mul_of_nonneg_left ?_ hpos.le
    linarith
  · rw [mul_comm (m : ℚ)]
    exact mul_lt_mul_of_pos_left hup hpos

lemma rounded_of_tiny (hq : 0 < q) (h : q < 2 ^ (-1075 : ℤ)) : rounded q = 0 := by
  have hunit : unit q = -1074 := by
    have hup := unit_le_of_lt hq h
    have := neg_1074_le_unit q
    omega
  have hhalf : (2 : ℚ) ^ (-1075 : ℤ) = 2 ^ (-1074 : ℤ) / 2 := by
    rw [show (-1075 : ℤ) = -1074 - 1 by norm_num, zpow_sub_one₀ (by norm_num)]
    rfl
  have hr := rounded_eq_of_abs_lt (n := 0) hq.le hunit (by
    rw [Nat.cast_zero, zero_mul, sub_zero, abs_of_pos hq, ← hhalf]
    exact h)
  rwa [Nat.cast_zero, zero_mul] at hr

lemma rounds_infinity (h : top ≤ q) : Rounds (infinity false) false q := by
  rw [Rounds, if_neg (not_lt.mpr (le_rounded (top_pos.le.trans h) representable_top h))]
  exact exact_infinity false

lemma denotes_ofNat_zero : Denotes (Float.ofNat 0) false 0 := ⟨0, -1074, by decide +kernel, by simp⟩

theorem Decimal.rounds_magnitude (d : Decimal) : Rounds d.magnitude false (d.digits * 10 ^ d.exponent) := by
  obtain ⟨s, m, k⟩ := d
  rw [magnitude]
  dsimp only
  split
  · rename_i hz
    rw [hz, Nat.cast_zero, zero_mul]
    exact rounds_zero denotes_ofNat_zero
  rename_i hm
  have hm' : 0 < m := Nat.pos_of_ne_zero hm
  obtain ⟨hlow, hup⟩ := bounds_of_length hm' k
  split
  · rename_i htop
    have hbig : top ≤ 10 ^ (310 : ℤ) := by
      have : 2 ^ 1024 ≤ 10 ^ 310 := by decide +kernel
      rw [top]
      exact_mod_cast this
    exact rounds_infinity (hbig.trans ((zpow_le_zpow_right₀ (by norm_num) (by omega)).trans hlow))
  split
  · rename_i htiny
    have hsmall : (10 : ℚ) ^ (-330 : ℤ) ≤ 2 ^ (-1075 : ℤ) := by
      have : 2 ^ 1075 ≤ 10 ^ 330 := by decide +kernel
      rw [zpow_neg, zpow_neg]
      refine inv_anti₀ (by positivity) ?_
      exact_mod_cast this
    have hlt := hup.trans_le ((zpow_le_zpow_right₀ (by norm_num) (by omega)).trans hsmall)
    rw [Rounds, rounded_of_tiny (by positivity) hlt, if_pos top_pos]
    exact denotes_ofNat_zero
  · have hlog := length_ofNat_le_log2 m
    have hlen := List.length_pos_of_ne_nil (Nat.toDigits_ne_nil (b := 10) (n := m))
    rw [← Text.ofNat] at hlen
    cases k with
    | ofNat e =>
      have hr := rounds_scaledUp hm' (e := e) (by rw [Int.ofNat_eq_natCast] at *; omega)
      simpa [not_lt.mpr (Int.natCast_nonneg e)] using hr
    | negSucc e =>
      have hr := rounds_scaledDown hm' e.succ_pos (by omega)
      simpa [zpow_negSucc, div_eq_mul_inv] using hr

theorem Decimal.rounds_toFloat (d : Decimal) : Rounds d.toFloat d.negative (d.digits * 10 ^ d.exponent) := by
  have h := d.rounds_magnitude
  rw [toFloat]
  cases d.negative with
  | false => exact h
  | true => exact h.neg

lemma rounds_places (s : Bool) (m p : ℕ) : Rounds (Decimal.toFloat ⟨s, m, -p⟩) s (m / 10 ^ p) := by
  have h := Decimal.rounds_toFloat ⟨s, m, -p⟩
  rwa [zpow_neg, zpow_natCast, ← div_eq_mul_inv] at h

end Toolpath.Number
