import Toolpath.Proofs.Number.Sum

/-!
The length of a vector of doubles is the root of the sum of the squares, but for an error far below the last
bit, and then rounded.
-/

namespace Toolpath.Number

variable {x y : Float} {s s' : Bool} {p q z : ℚ} {m n : ℕ}

lemma sqrtFloor_eq {fuel : ℕ} (h : n < 4 ^ fuel) : sqrtFloor fuel n = n.sqrt := by
  induction fuel generalizing n with
  | zero =>
    obtain rfl : n = 0 := by simpa using h
    rfl
  | succ fuel ih =>
    rw [sqrtFloor]
    split
    · rename_i hz
      rw [hz]
      rfl
    · have hlow := Nat.sqrt_le (n / 4)
      have hup := Nat.lt_succ_sqrt (n / 4)
      rw [ih (by rw [pow_succ] at h; omega)]
      generalize (n / 4).sqrt = r at *
      dsimp only
      split
      · rename_i hle
        refine Nat.eq_sqrt.mpr ⟨hle, ?_⟩
        calc n < 4 * (n / 4 + 1) := by omega
          _ ≤ 4 * (r.succ * r.succ) := Nat.mul_le_mul_left 4 hup
          _ = (2 * r + 1 + 1) * (2 * r + 1 + 1) := by rw [Nat.succ_eq_add_one]; ring
      · rename_i hlt
        refine Nat.eq_sqrt.mpr ⟨?_, not_le.mp hlt⟩
        calc 2 * r * (2 * r) = 4 * (r * r) := by ring
          _ ≤ 4 * (n / 4) := Nat.mul_le_mul_left 4 hlow
          _ ≤ n := Nat.mul_div_le n 4

lemma abs_sq_sub_le {r : ℕ} (hlow : r * r ≤ n) (hup : n < (r + 1) * (r + 1)) :
    |((2 * r + if r * r = n then 0 else 1 : ℕ) : ℚ) ^ 2 - 4 * n| ≤ 4 * (r : ℚ) := by
  have hlow' : (r : ℚ) * r ≤ n := by exact_mod_cast hlow
  split
  · rename_i h
    have h' : (r : ℚ) * r = n := by exact_mod_cast h
    push_cast
    rw [← h', abs_le]
    constructor <;> nlinarith [(Nat.cast_nonneg r : (0 : ℚ) ≤ r)]
  · rename_i h
    have hlt : (r : ℚ) * r + 1 ≤ n := by exact_mod_cast Nat.lt_of_le_of_ne hlow h
    have hup' : (n : ℚ) + 1 ≤ (r + 1) * (r + 1) := by exact_mod_cast hup
    push_cast
    rw [abs_le]
    constructor <;> nlinarith

lemma lt_four_pow_log2 (n : ℕ) : n < 4 ^ (n.log2 / 2 + 1) := by
  calc n < 2 ^ (n.log2 + 1) := Nat.lt_log2_self
    _ ≤ 2 ^ (2 * (n.log2 / 2 + 1)) := Nat.pow_le_pow_right (by norm_num) (by omega)
    _ = _ := by rw [pow_mul]; norm_num

lemma four_zpow_eq (e : ℤ) : (4 : ℚ) ^ e = 4 * 4 ^ 60 * (2 ^ (e - 60 - 1)) ^ 2 := by
  have hfour : (4 : ℚ) ^ e = (2 ^ e) ^ 2 := by
    rw [show (4 : ℚ) = 2 ^ (2 : ℤ) by norm_num, ← zpow_mul, ← zpow_natCast, ← zpow_mul]
    ring_nf
  have he : (2 : ℚ) ^ e = 2 ^ (e - 60 - 1) * 2 ^ 61 := by
    rw [← zpow_add_nat]
    congr 1
    push_cast
    ring
  rw [hfour, he]
  norm_num
  ring

lemma rounds_sqrtNearest (hm : 0 < m) (e : ℤ) : ∃ z, 0 ≤ z ∧ Rounds (sqrtNearest m e) false z ∧
    |z ^ 2 - (m : ℚ) * 4 ^ e| ≤ (m : ℚ) * 4 ^ e / 2 ^ 60 := by
  rw [sqrtNearest, sqrtFloor_eq (lt_four_pow_log2 _)]
  generalize hn : m * Nat.pow 4 60 = n at *
  have hlow := Nat.sqrt_le n
  have hup := Nat.lt_succ_sqrt n
  have hr : 2 ^ 60 ≤ n.sqrt := by
    rw [Nat.le_sqrt, ← hn]
    norm_num
    omega
  generalize n.sqrt = r at *
  have hpos : 0 < 2 * r + if r * r = n then 0 else 1 := by omega
  have herr := abs_sq_sub_le hlow hup
  generalize (2 * r + if r * r = n then 0 else 1) = k at *
  refine ⟨_, mul_nonneg (Nat.cast_nonneg _) (two_zpow_pos _).le, rounds_nearestMagnitude hpos _, ?_⟩
  have hw := two_zpow_pos (e - 60 - 1)
  have hscale : (m : ℚ) * 4 ^ e = 4 * n * (2 ^ (e - 60 - 1)) ^ 2 := by
    rw [four_zpow_eq, ← hn]
    push_cast
    ring
  have hr' : (2 : ℚ) ^ 60 * r ≤ n := by
    calc (2 : ℚ) ^ 60 * r ≤ r * r := mul_le_mul_of_nonneg_right (by exact_mod_cast hr) (Nat.cast_nonneg r)
      _ ≤ n := by exact_mod_cast hlow
  have hdiff : ((k : ℚ) * 2 ^ (e - 60 - 1)) ^ 2 - m * 4 ^ e = ((k : ℚ) ^ 2 - 4 * n) * (2 ^ (e - 60 - 1)) ^ 2 := by
    rw [hscale]
    ring
  rw [Nat.cast_ofNat, hdiff, hscale, abs_mul, abs_of_pos (pow_pos hw 2), mul_div_right_comm]
  refine mul_le_mul_of_nonneg_right (herr.trans ?_) (sq_nonneg _)
  rw [le_div_iff₀ (by norm_num)]
  linarith

lemma Canonical.unique {k : ℕ} {e e' : ℤ} (h : Canonical m e) (h' : Canonical k e') (he : (m : ℚ) * 2 ^ e = k * 2 ^ e') :
    m = k ∧ e = e' := by
  rcases lt_trichotomy e e' with hlt | rfl | hlt
  · exact absurd he (h.mul_lt_mul h' hlt).ne
  · have hmk := mul_right_cancel₀ (two_zpow_pos e).ne' he
    exact ⟨by exact_mod_cast hmk, rfl⟩
  · exact absurd he (h'.mul_lt_mul h hlt).ne'

lemma hypot_congr {x' y' : Float} {t t' : Bool} (hx : Denotes x s p) (hx' : Denotes x' t p) (hy : Denotes y s' q)
    (hy' : Denotes y' t' q) : hypot x y = hypot x' y' := by
  obtain ⟨m, e, hx, rfl⟩ := hx
  obtain ⟨m', e', hx', hm⟩ := hx'
  obtain ⟨n, f, hy, rfl⟩ := hy
  obtain ⟨n', f', hy', hn⟩ := hy'
  obtain ⟨rfl, rfl⟩ := (canonical_of_exactBits hx').1.unique (canonical_of_exactBits hx).1 hm
  obtain ⟨rfl, rfl⟩ := (canonical_of_exactBits hy').1.unique (canonical_of_exactBits hy).1 hn
  rw [hypot, hypot, hx, hx', hy, hy']

lemma mul_pow_mul_zpow (m : ℕ) {e t : ℤ} (h : t ≤ e) : ((m * Nat.pow 2 (e - t).toNat : ℕ) : ℚ) * 2 ^ t = m * 2 ^ e := by
  rw [Nat.pow_eq, ← Nat.shiftLeft_eq, shiftLeft_mul_zpow m h]

theorem rounds_hypot (hx : Denotes x s p) (hy : Denotes y s' q) : ∃ z, 0 ≤ z ∧ Rounds (hypot x y) false z ∧
    |z ^ 2 - (p ^ 2 + q ^ 2)| ≤ (p ^ 2 + q ^ 2) / 2 ^ 60 := by
  obtain ⟨m, e, hx, rfl⟩ := hx
  obtain ⟨n, f, hy, rfl⟩ := hy
  rw [hypot, hx, hy]
  dsimp only
  have hm := mul_pow_mul_zpow m (min_le_left e f)
  have hn := mul_pow_mul_zpow n (min_le_right e f)
  generalize m * Nat.pow 2 (e - min e f).toNat = k at *
  generalize n * Nat.pow 2 (f - min e f).toNat = l at *
  have hfour : (4 : ℚ) ^ min e f = 2 ^ min e f * 2 ^ min e f := by
    rw [← mul_zpow]
    norm_num
  have hsum : ((m : ℚ) * 2 ^ e) ^ 2 + ((n : ℚ) * 2 ^ f) ^ 2 = (k * k + l * l : ℕ) * 4 ^ min e f := by
    rw [← hm, ← hn, hfour]
    push_cast
    ring
  rw [hsum]
  rcases (k * k + l * l).eq_zero_or_pos with hz | hpos
  · rw [hz]
    refine ⟨0, le_rfl, rounds_zero ⟨0, -1074, ?_, by simp⟩, by simp⟩
    have hzero : sqrtNearest 0 (min e f) = Float.ofBits 0 := rfl
    rw [hzero, exact_ofBits]
    rfl
  · exact rounds_sqrtNearest hpos _

lemma exact_hypot_of_not_isFinite (h : x.isFinite = false ∨ y.isFinite = false) :
    exact (hypot x y) = .nan ∨ exact (hypot x y) = .infinite false := by
  rw [hypot]
  rcases h with h | h <;> rcases exact_of_not_isFinite h with h | ⟨s, h⟩ <;> rw [h]
  · cases exact y with
    | infinite => exact .inr (exact_infinity false)
    | nan | finite => exact .inl exact_nan
  · exact .inr (exact_infinity false)
  · cases exact x with
    | infinite => exact .inr (exact_infinity false)
    | nan | finite => exact .inl exact_nan
  · cases exact x with
    | nan | infinite | finite => exact .inr (exact_infinity false)

lemma ne_nan_hypot (hx : Denotes x s p) (hy : Denotes y s' q) : exact (hypot x y) ≠ .nan := by
  obtain ⟨z, -, hr, -⟩ := rounds_hypot hx hy
  exact hr.ne_nan

lemma rounded_lt_rounded {z' : ℚ} (hz : 0 ≤ z) (hle : z ≤ 2) (h : z + 2 ^ (-49 : ℤ) ≤ z') : rounded z < rounded z' := by
  have hunit : (2 : ℚ) ^ (-51 : ℤ) = 1 / 2 ^ 51 := by norm_num
  obtain ⟨k, hk⟩ : ∃ k, k = ⌈z * 2 ^ 51⌉₊ := ⟨_, rfl⟩
  have hlow : z * 2 ^ 51 ≤ k := hk ▸ Nat.le_ceil _
  have hup : (k : ℚ) < z * 2 ^ 51 + 1 := hk ▸ Nat.ceil_lt_add_one (by positivity)
  have hsmall : k ≤ 2 ^ 52 := by
    have hlt : (k : ℚ) < 2 ^ 52 + 1 := by linarith
    have hlt' : k < 2 ^ 52 + 1 := by exact_mod_cast hlt
    omega
  have hz' : (-1074 : ℤ) ≤ -51 := by norm_num
  calc rounded z ≤ k * 2 ^ (-51 : ℤ) := rounded_le hz (representable_of_le (by omega) hz') (by rw [hunit]; linarith)
    _ < (k + 1 : ℕ) * 2 ^ (-51 : ℤ) := by
      push_cast
      linarith [two_zpow_pos (-51)]
    _ ≤ rounded z' := by
      have hstep : (2 : ℚ) ^ (-49 : ℤ) = 4 / 2 ^ 51 := by norm_num
      rw [hstep] at h
      refine le_rounded (by linarith) (representable_of_le (by omega) hz') ?_
      rw [hunit]
      push_cast
      linarith

lemma min_rounded_lt {z' : ℚ} (hz : 0 ≤ z) (hle : z ≤ 2) (h : z + 2 ^ (-49 : ℤ) ≤ z') :
    min (rounded z) top < min (rounded z') top := by
  have htwo : rounded z ≤ 2 := rounded_le hz (representable_natCast (n := 2) (by norm_num)) (by exact_mod_cast hle)
  have htop : rounded z < top := htwo.trans_lt (by exact_mod_cast natCast_lt_top (n := 2) (by norm_num))
  rw [min_eq_left htop.le]
  exact lt_min (rounded_lt_rounded hz hle h) htop

section

variable {x' y' : Float} {t t' : Bool} {p' q' : ℚ} (hx : Denotes x s p) (hy : Denotes y s' q)

include hx hy

lemma value_hypot : ∃ z, 0 ≤ z ∧ value (hypot x y) = min (rounded z) top ∧
    |z ^ 2 - (p ^ 2 + q ^ 2)| ≤ (p ^ 2 + q ^ 2) / 2 ^ 60 := by
  obtain ⟨z, hz, hr, herr⟩ := rounds_hypot hx hy
  exact ⟨z, hz, by rw [hr.value_eq, withSign, if_neg Bool.false_ne_true], herr⟩

lemma hypot_le (hz : Representable z) (h : (p ^ 2 + q ^ 2) * (1 + 1 / 2 ^ 60) ≤ z ^ 2) : value (hypot x y) ≤ z := by
  obtain ⟨r, hr, hvalue, herr⟩ := value_hypot hx hy
  have hle : r ≤ z := le_of_sq_le_sq (by linarith [(abs_le.mp herr).2]) hz.nonneg
  rw [hvalue]
  exact (min_le_left _ _).trans (rounded_le hr hz hle)

lemma le_hypot (hz : Representable z) (hlt : z ≤ top) (h : z ^ 2 ≤ (p ^ 2 + q ^ 2) * (1 - 1 / 2 ^ 60)) :
    z ≤ value (hypot x y) := by
  obtain ⟨r, hr, hvalue, herr⟩ := value_hypot hx hy
  have hle : z ≤ r := le_of_sq_le_sq (by linarith [(abs_le.mp herr).1]) hr
  rw [hvalue]
  exact le_min (le_rounded hr hz hle) hlt

lemma hypot_lt (hx' : Denotes x' t p') (hy' : Denotes y' t' q') (h : p ^ 2 + q ^ 2 ≤ 2)
    (hlt : p ^ 2 + q ^ 2 + 2 ^ (-46 : ℤ) ≤ p' ^ 2 + q' ^ 2) : hypot x y < hypot x' y' := by
  obtain ⟨z, hz, hr, herr⟩ := rounds_hypot hx hy
  obtain ⟨z', hz', hr', herr'⟩ := rounds_hypot hx' hy'
  rw [lt_iff hr.ne_nan hr'.ne_nan, hr.value_eq, hr'.value_eq, withSign, withSign, if_neg Bool.false_ne_true,
    if_neg Bool.false_ne_true]
  have hup := (abs_le.mp herr).2
  have hlow := (abs_le.mp herr').1
  have hle : z ≤ 3 / 2 := by
    by_contra hgt
    nlinarith
  refine min_rounded_lt hz (by linarith) ?_
  norm_num at hlt ⊢
  have hsq : z ^ 2 + 1 / 2 ^ 47 ≤ z' ^ 2 := by linarith
  by_contra hgt
  nlinarith

end

end Toolpath.Number
