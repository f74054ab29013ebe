import Toolpath.Number.Fixed
import Toolpath.Proofs.Number.Arithmetic

/-!
Doubles from whole numbers: a whole number of at most 53 bits is exact, and a whole number times a power of two
gives the nearest double. With it, what `roundHalfAway` does to a number.
-/

namespace Toolpath.Number

open Float.Model Float.Model.UnpackedFloat

variable {x y : Float} {s : Bool} {q : ℚ} {m n : ℕ}

lemma Rounds.denotes (h : Rounds x s q) (hq : rounded q < top) : Denotes x s (rounded q) := by
  rwa [Rounds, if_pos hq] at h

lemma Rounds.infinite (h : Rounds x s q) (hq : top ≤ rounded q) : exact x = .infinite s := by
  rwa [Rounds, if_neg (not_lt.mpr hq)] at h

lemma exact_infinity (s : Bool) : exact (infinity s) = .infinite s := by
  cases s <;> rw [infinity] <;> simp only [if_true, if_false, exact_ofBits, Bool.false_eq_true] <;> rfl

lemma exact_neg_infinite (h : exact x = .infinite s) : exact (-x) = .infinite (!s) := by
  have hsign : -signOf s = signOf (!s) := by cases s <;> rfl
  have hneg : -x = .ofModel (.pack x.toModel.unpack.neg) := rfl
  rw [hneg, unpack_of_infinite h, UnpackedFloat.neg, hsign]
  exact exact_pack_infinity _

lemma Rounds.neg (h : Rounds x s q) : Rounds (-x) (!s) q := by
  rw [Rounds] at h ⊢
  split at h
  · rename_i hq
    rw [if_pos hq]
    exact h.neg
  · rename_i hq
    rw [if_neg hq]
    exact exact_neg_infinite h

lemma denotes_ofBits_normal {w e : ℕ} (hw : 2 ^ 52 ≤ w) (hw' : w < 2 ^ 53) (he : 0 < e) (he' : e < 2047) :
    Denotes (.ofBits (.ofNat (w + (e - 1) * 2 ^ 52))) false (w * 2 ^ ((e : ℤ) - 1075)) := by
  refine ⟨w, e - 1075, ?_, rfl⟩
  have hbits : (UInt64.ofNat (w + (e - 1) * 2 ^ 52)).toNat = w - 2 ^ 52 + e * 2 ^ 52 := by
    rw [UInt64.toNat_ofNat_of_lt' (by norm_num; omega)]
    omega
  have hfield : (w - 2 ^ 52 + e * 2 ^ 52) / 2 ^ 52 % 2 ^ 11 = e := by omega
  have hmant : (w - 2 ^ 52 + e * 2 ^ 52) % 2 ^ 52 + 2 ^ 52 = w := by omega
  have hsign : (w - 2 ^ 52 + e * 2 ^ 52) / 2 ^ 63 ≠ 1 := by omega
  rw [exact_ofBits, hbits, exactBits]
  simp only [hfield, hmant, hsign, he'.ne, he.ne', if_false, decide_false]

lemma denotes_ofBits {u : ℕ} (hn : n ≤ 2 ^ 53) (hfull : 0 < u → 2 ^ 52 ≤ n)
    (h : n + u * 2 ^ 52 < 0x7FF0000000000000) :
    Denotes (.ofBits (.ofNat (n + u * 2 ^ 52))) false (n * 2 ^ ((u : ℤ) - 1074)) := by
  rcases lt_or_ge n (2 ^ 52) with hlt | hlow
  · obtain rfl : u = 0 := by
      by_contra hu
      exact not_le.mpr hlt (hfull (Nat.pos_of_ne_zero hu))
    have hbits : (UInt64.ofNat (n + 0 * 2 ^ 52)).toNat = n := by
      rw [UInt64.toNat_ofNat_of_lt' (by norm_num; omega)]
      omega
    have hfield : n / 2 ^ 52 % 2 ^ 11 = 0 := by omega
    have hmant : n % 2 ^ 52 = n := by omega
    have hsign : n / 2 ^ 63 ≠ 1 := by omega
    refine ⟨n, -1074, ?_, rfl⟩
    rw [exact_ofBits, hbits, exactBits]
    simp only [hfield, hmant, hsign, if_true, decide_false]
    rfl
  · rcases hn.lt_or_eq with hlt | rfl
    · have hd := denotes_ofBits_normal hlow hlt (e := u + 1) (by omega) (by omega)
      rw [Nat.add_sub_cancel, show ((u + 1 : ℕ) : ℤ) - 1075 = u - 1074 by push_cast; ring] at hd
      exact hd
    · -- the carry goes into the exponent
      have hd := denotes_ofBits_normal (w := 2 ^ 52) le_rfl (by norm_num) (e := u + 2) (by omega) (by omega)
      have hbits : 2 ^ 52 + (u + 2 - 1) * 2 ^ 52 = 2 ^ 53 + u * 2 ^ 52 := by omega
      have hvalue : ((2 ^ 52 : ℕ) : ℚ) * 2 ^ (((u + 2 : ℕ) : ℤ) - 1075) = (2 ^ 53 : ℕ) * 2 ^ ((u : ℤ) - 1074) := by
        rw [show ((u + 2 : ℕ) : ℤ) - 1075 = (u - 1074) + (1 : ℕ) by push_cast; ring, zpow_add_nat]
        push_cast
        ring
      rwa [hbits, hvalue] at hd

lemma top_le_of_bits {u : ℕ} (hn : n ≤ 2 ^ 53) (h : 0x7FF0000000000000 ≤ n + u * 2 ^ 52) (hfull : 0 < u → 2 ^ 52 ≤ n) :
    top ≤ (n : ℚ) * 2 ^ ((u : ℤ) - 1074) := by
  rcases lt_or_ge u 2046 with hu | hu
  · obtain ⟨rfl, rfl⟩ : n = 2 ^ 53 ∧ u = 2045 := by omega
    have htop := pow_mul_zpow_eq_top (by norm_num : (971 : ℤ) + (53 : ℕ) = 1024)
    rw [← htop]
    norm_num
  · have hn' : (2 : ℚ) ^ 52 ≤ n := by exact_mod_cast hfull (by omega)
    have hu' : (2 : ℚ) ^ (972 : ℤ) ≤ 2 ^ ((u : ℤ) - 1074) := zpow_le_zpow_right₀ (by norm_num) (by omega)
    rw [← pow_mul_zpow_eq_top (by norm_num : (972 : ℤ) + (52 : ℕ) = 1024)]
    exact mul_le_mul hn' hu' (two_zpow_pos _).le (by positivity)

lemma rounds_ofBits {u : ℕ} (hn : n ≤ 2 ^ 53) (hfull : 0 < u → 2 ^ 52 ≤ n) (hq : rounded q = n * 2 ^ ((u : ℤ) - 1074)) :
    Rounds (if n + u * 2 ^ 52 < 0x7FF0000000000000 then .ofBits (.ofNat (n + u * 2 ^ 52)) else infinity false) false q := by
  split
  · rename_i hlt
    have hd := denotes_ofBits hn hfull hlt
    rw [Rounds, hq, if_pos hd.lt_top]
    exact hd
  · rename_i hge
    rw [Rounds, hq, if_neg (not_lt.mpr (top_le_of_bits hn (not_lt.mp hge) hfull))]
    exact exact_infinity false

theorem rounds_nearestMagnitude (hm : 0 < m) (e : ℤ) : Rounds (nearestMagnitude m e) false (m * 2 ^ e) := by
  have hpos : (0 : ℚ) < m * 2 ^ e := mul_pos (by exact_mod_cast hm) (two_zpow_pos e)
  have hunit : max (e + m.log2 - 52) (-1074) = unit ((m : ℚ) * 2 ^ e) := by rw [unit, log_mul_zpow hm, add_comm e]
  obtain ⟨n, hn, hnear, hr⟩ := exists_rounded_eq hpos.le
  obtain ⟨u, hu⟩ := Int.eq_ofNat_of_zero_le (by linarith [neg_1074_le_unit ((m : ℚ) * 2 ^ e)] :
    0 ≤ unit ((m : ℚ) * 2 ^ e) + 1074)
  obtain he : unit ((m : ℚ) * 2 ^ e) = u - 1074 := by omega
  have hfull : 0 < u → 2 ^ 52 ≤ n := fun h => full_of_isNearest hpos (by omega) hnear
  rw [nearestMagnitude, if_neg hm.ne']
  dsimp only
  rw [hunit, hu, Int.toNat_natCast]
  rw [he] at hnear hr ⊢
  cases hk : e - (u - 1074) with
  | ofNat k =>
    have hwhole : (m : ℚ) * 2 ^ e / 2 ^ ((u : ℤ) - 1074) = (m * 2 ^ k : ℕ) := by
      rw [Int.ofNat_eq_natCast] at hk
      rw [div_eq_iff (two_zpow_pos _).ne', show e = u - 1074 + k by omega, zpow_add_nat]
      push_cast
      ring
    rw [hwhole] at hnear
    obtain rfl : m * 2 ^ k = n := (isNearest_self _).unique hnear
    exact rounds_ofBits hn hfull hr
  | negSucc k =>
    have hquot : (m : ℚ) * 2 ^ e / 2 ^ ((u : ℤ) - 1074) = m / (2 ^ (k + 1) : ℕ) := by
      rw [Int.negSucc_eq] at hk
      rw [div_eq_div_iff (two_zpow_pos _).ne' (by positivity),
        show (u : ℤ) - 1074 = e + (k + 1 : ℕ) by push_cast; omega, zpow_add_nat]
      push_cast
      ring
    rw [hquot] at hnear
    obtain rfl := (isNearest_roundDiv .toEven m (Nat.two_pow_pos (k + 1))).unique hnear
    exact rounds_ofBits hn hfull hr

theorem rounds_nearest (s : Bool) (m : ℕ) (e : ℤ) : Rounds (nearest ⟨s, m, e⟩) s (m * 2 ^ e) := by
  have hr : Rounds (nearestMagnitude m e) false (m * 2 ^ e) := by
    rcases m.eq_zero_or_pos with rfl | hm
    · have hd : Denotes (Float.ofBits 0) false 0 := ⟨0, -1074, by decide +kernel, by simp⟩
      rw [Nat.cast_zero, zero_mul, nearestMagnitude, if_pos rfl]
      exact rounds_zero hd
    · exact rounds_nearestMagnitude hm e
  rw [nearest]
  cases s
  · rw [if_neg Bool.false_ne_true]
    exact hr
  · rw [if_pos rfl]
    exact hr.neg

lemma Rounds.denotes_natCast (h : Rounds x s m) (hm : m < 2 ^ 53) : Denotes x s m := by
  rwa [Rounds, rounded_of_representable (representable_natCast hm), if_pos (natCast_lt_top hm)] at h

lemma denotes_nearest (s : Bool) (hm : m < 2 ^ 53) : Denotes (nearest ⟨s, m, 0⟩) s m := by
  have hr := rounds_nearest s m 0
  rw [zpow_zero, mul_one] at hr
  exact hr.denotes_natCast hm

theorem Denotes.roundHalfAway (h : Denotes x s q) :
    Denotes (roundHalfAway x) s (nearestTo .awayFromZero q) := by
  have hd := h
  obtain ⟨m, e, hx, hq⟩ := h
  obtain ⟨hc, -⟩ := canonical_of_exactBits hx
  rw [Number.roundHalfAway, hx]
  cases e with
  | ofNat k =>
    have hwhole : q = (m * 2 ^ k : ℕ) := by
      rw [← hq]
      simp
    dsimp only
    rw [hwhole, nearestTo_natCast, ← hwhole]
    exact hd
  | negSucc k =>
    have hquot : q = m / (2 ^ (k + 1) : ℕ) := by
      rw [← hq, zpow_negSucc]
      push_cast
      rw [div_eq_mul_inv]
    have hround : roundDiv .awayFromZero m (2 ^ (k + 1)) < 2 ^ 53 := by
      have hlow := (isNearest_roundDiv .awayFromZero m (Nat.two_pow_pos (k + 1))).lower
      have hhalf : (m : ℚ) / (2 ^ (k + 1) : ℕ) ≤ m / 2 := by
        refine div_le_div_of_nonneg_left (by positivity) (by norm_num) ?_
        exact_mod_cast Nat.le_self_pow k.succ_ne_zero 2
      have hm : (m : ℚ) < 2 ^ 53 := by exact_mod_cast hc.lt
      have hlt : (roundDiv .awayFromZero m (2 ^ (k + 1)) : ℚ) < 2 ^ 53 := by linarith
      exact_mod_cast hlt
    rw [hquot, ← roundDiv_eq _ _ (Nat.two_pow_pos (k + 1))]
    exact denotes_nearest s hround

lemma rounds_ofNat (hm : 0 < m) : Rounds (.ofModel (.pack (UnpackedFloat.ofNat .binary64 m))) false m := by
  have hpositive : compare (m : ℤ) 0 = .gt := Int.compare_eq_gt.mpr (by omega)
  have hr := rounds_round false hm 0
  rw [zpow_zero, mul_one] at hr
  rw [UnpackedFloat.ofNat, UnpackedFloat.ofInt, UnpackedFloat.normalize, hpositive]
  exact hr

end Toolpath.Number
