import Toolpath.Proofs.Number.Fixed

/-!
Whole hundredths, and the doubles nearest to them. Up to 45 bits before the point the double lies so near that
scaling it gives the hundredths again; in the next binade the scaled double can come to lie halfway to the next
hundredth; from there on the doubles lie further apart than the hundredths, and scaling there and back returns
to the same double.
-/

namespace Toolpath.Number

variable {q x : ℚ} {k m n : ℕ}

lemma Representable.exists_eq_mul {e : ℤ} (h : Representable q) (he : (2 : ℚ) ^ (e + 52) ≤ q) :
    ∃ n : ℕ, q = n * 2 ^ e := by
  obtain ⟨m, f, hm, -, rfl⟩ := h
  have hfe : e ≤ f := by
    by_contra hlt
    have hm' : (m : ℚ) < 2 ^ 53 := by exact_mod_cast hm
    have hf : (2 : ℚ) ^ f ≤ 2 ^ (e - 1) := zpow_le_zpow_right₀ (by norm_num) (by omega)
    have hup : (m : ℚ) * 2 ^ f < 2 ^ 53 * 2 ^ (e - 1) :=
      (mul_lt_mul_of_pos_right hm' (two_zpow_pos f)).trans_le (mul_le_mul_of_nonneg_left hf (by norm_num))
    have heq : (2 : ℚ) ^ 53 * 2 ^ (e - 1) = 2 ^ (e + 52) := by
      rw [mul_comm, ← zpow_add_nat]
      congr 1
      push_cast
      ring
    linarith
  obtain ⟨k, hk⟩ := Int.eq_ofNat_of_zero_le (sub_nonneg.mpr hfe)
  refine ⟨m * 2 ^ k, ?_⟩
  rw [show f = e + k by omega, zpow_add_nat]
  push_cast
  ring

structure Full (m : ℕ) (e : ℤ) : Prop where
  low : 2 ^ 52 ≤ m
  lt : m < 2 ^ 53
  le : -1074 ≤ e

lemma Representable.exists_full {e : ℤ} (h : Representable q) (he : (2 : ℚ) ^ (e + 52) ≤ q) (hmin : -1074 ≤ e) :
    ∃ m f, Full m f ∧ e ≤ f ∧ q = m * 2 ^ f := by
  have hq : 0 < q := (two_zpow_pos _).trans_le he
  have hlog := (zpow_le_iff hq).mp he
  have hf : (2 : ℚ) ^ (Int.log 2 q - 52 + 52) ≤ q := (zpow_le_iff hq).mpr (by omega)
  have hf' : q < (2 : ℚ) ^ (Int.log 2 q - 52 + 53) := (lt_zpow_iff hq).mpr (by omega)
  have hef : e ≤ Int.log 2 q - 52 := by omega
  obtain ⟨n, hn⟩ := h.exists_eq_mul hf
  generalize Int.log 2 q - 52 = f at *
  have hp := two_zpow_pos f
  refine ⟨n, f, ⟨?_, ?_, by omega⟩, by omega, hn⟩
  · have : (2 : ℚ) ^ 52 * 2 ^ f ≤ n * 2 ^ f := by
      rw [← hn, mul_comm, ← zpow_add_nat]
      exact hf
    exact_mod_cast le_of_mul_le_mul_right this hp
  · have : (n : ℚ) * 2 ^ f < 2 ^ 53 * 2 ^ f := by
      rw [← hn, mul_comm, ← zpow_add_nat]
      exact hf'
    exact_mod_cast lt_of_mul_lt_mul_right this hp.le

lemma Full.bounds {e : ℤ} (h : Full m e) :
    2 ^ 52 * (2 : ℚ) ^ e ≤ m * 2 ^ e ∧ (m : ℚ) * 2 ^ e + 2 ^ e ≤ 2 ^ 53 * 2 ^ e := by
  have hp := two_zpow_pos e
  have hlow : (2 : ℚ) ^ 52 ≤ m := by exact_mod_cast h.low
  have hup : (m : ℚ) + 1 ≤ 2 ^ 53 := by exact_mod_cast h.lt
  refine ⟨mul_le_mul_of_nonneg_right hlow hp.le, ?_⟩
  linarith [mul_le_mul_of_nonneg_right hup hp.le]

lemma Full.rounded_eq {e : ℤ} (h : Full m e) (hx : |x - m * 2 ^ e| < 2 ^ e / 2)
    (hm : m = 2 ^ 52 → (m : ℚ) * 2 ^ e ≤ x) : rounded x = m * 2 ^ e := by
  have hp := two_zpow_pos e
  obtain ⟨hlow, hup⟩ := h.bounds
  obtain ⟨hlt, hgt⟩ := abs_lt.mp hx
  have hx₁ : (2 : ℚ) ^ (e + 52) ≤ x := by
    rw [show e + 52 = e + (52 : ℕ) from rfl, zpow_add_nat, mul_comm]
    rcases h.low.eq_or_lt with heq | hgt
    · exact hlow.trans (hm heq.symm)
    · have hm' : (2 : ℚ) ^ 52 + 1 ≤ m := by exact_mod_cast hgt
      linarith [mul_le_mul_of_nonneg_right hm' hp.le]
  have hx₂ : x < (2 : ℚ) ^ (e + 53) := by
    rw [show e + 53 = e + (53 : ℕ) from rfl, zpow_add_nat, mul_comm]
    linarith
  exact rounded_eq_of_abs_lt ((two_zpow_pos _).le.trans hx₁) (unit_eq hx₁ hx₂ h.le) hx

lemma not_representable_odd {e : ℤ} (hodd : Odd n) (hn : 2 ^ 53 ≤ n) : ¬ Representable (n * 2 ^ e) := by
  rintro ⟨a, f, ha, -, heq⟩
  rcases lt_or_ge e f with hef | hef
  · obtain ⟨j, hj⟩ := Int.eq_ofNat_of_zero_le (sub_nonneg.mpr hef.le)
    obtain ⟨i, rfl⟩ : ∃ i, j = i + 1 := ⟨j - 1, by omega⟩
    rw [show f = e + (i + 1 : ℕ) by omega, zpow_add_nat, ← mul_assoc, mul_right_comm] at heq
    have heq' : n = a * 2 ^ (i + 1) := by exact_mod_cast mul_right_cancel₀ (two_zpow_pos e).ne' heq
    rw [← Nat.not_even_iff_odd] at hodd
    exact hodd (heq' ▸ (Nat.even_pow.mpr ⟨even_two, i.succ_ne_zero⟩).mul_left a)
  · obtain ⟨j, hj⟩ := Int.eq_ofNat_of_zero_le (sub_nonneg.mpr hef)
    rw [show e = f + j by omega, zpow_add_nat, ← mul_assoc, mul_right_comm] at heq
    have heq' : n * 2 ^ j = a := by exact_mod_cast mul_right_cancel₀ (two_zpow_pos f).ne' heq
    have := Nat.le_mul_of_pos_right n (Nat.two_pow_pos j)
    omega

lemma mul_hundred_nonneg (hq : 0 ≤ q) : 0 ≤ q * 100 := mul_nonneg hq (by norm_num)

def reading (k : ℕ) : ℚ := rounded (k / 100)

def scaled (q : ℚ) : ℕ := nearestTo .awayFromZero (rounded (q * 100))

lemma hundredths_eq (h : rounded (q * 100) < top) : hundredths q = nearestTo .toEven (reading (scaled q) * 100) := by
  rw [hundredths, settled, if_pos h, reading, scaled]

lemma reading_nonneg (k : ℕ) : 0 ≤ reading k := rounded_nonneg (by positivity)

lemma abs_rounded_sub_le_half (hq : 0 ≤ q) : |rounded q - q| ≤ 2 ^ unit q / 2 := by
  obtain ⟨n, -, hn, he⟩ := exists_rounded_eq hq
  have hu := two_zpow_pos (unit q)
  have hlow := mul_le_mul_of_nonneg_right hn.lower hu.le
  have hup := mul_le_mul_of_nonneg_right hn.upper hu.le
  rw [div_mul_cancel₀ _ hu.ne'] at hlow hup
  rw [he, abs_le]
  constructor <;> linarith

lemma abs_reading_sub_le {e : ℤ} (h : (k : ℚ) / 100 < 2 ^ (e + 53)) (he : -1074 ≤ e) :
    |reading k * 100 - k| ≤ 50 * 2 ^ e := by
  have hp := two_zpow_pos e
  rcases k.eq_zero_or_pos with rfl | hk
  · simp only [reading, Nat.cast_zero, zero_div, rounded_zero, zero_mul, sub_zero, abs_zero]
    positivity
  have hk' : (0 : ℚ) < k / 100 := by positivity
  have hunit : unit ((k : ℚ) / 100) ≤ e := by
    have := unit_le_of_lt hk' h
    omega
  have hpow : (2 : ℚ) ^ unit ((k : ℚ) / 100) ≤ 2 ^ e := zpow_le_zpow_right₀ (by norm_num) hunit
  have hhalf := abs_rounded_sub_le_half hk'.le
  rw [← reading, abs_le] at hhalf
  rw [abs_le]
  constructor <;> linarith [hhalf.1, hhalf.2]

lemma nearestTo_away_eq (h : (k : ℚ) - 1 / 2 ≤ x) (h' : x < k + 1 / 2) (hx : 0 ≤ x) :
    nearestTo .awayFromZero x = k :=
  IsNearest.nearestTo_eq hx ⟨h, h'.le, fun _ => nofun, fun he => absurd he h'.ne⟩

section Small

variable (hk : k < 100 * 2 ^ 46)
include hk

lemma reading_near : |reading k * 100 - k| ≤ 50 / 128 := by
  have hk' : (k : ℚ) < 100 * 2 ^ 46 := by exact_mod_cast hk
  have h := abs_reading_sub_le (k := k) (e := -7) (by norm_num; linarith) (by norm_num)
  norm_num at h ⊢
  exact h

lemma print_reading : nearestTo .toEven (reading k * 100) = k := by
  have h := abs_le.mp (reading_near hk)
  have hpos := reading_nonneg k
  exact (IsNearest.of_abs_lt (abs_lt.mpr ⟨by linarith [h.1], by linarith [h.2]⟩)).nearestTo_eq (by positivity)

lemma rounded_reading_near : |rounded (reading k * 100) - k| ≤ 2 * |reading k * 100 - k| := by
  have hpos := reading_nonneg k
  have h := abs_rounded_sub_le (by positivity : 0 ≤ reading k * 100) (representable_natCast (by omega : k < 2 ^ 53))
  rw [abs_sub_comm (k : ℚ)] at h
  have := abs_sub_le (rounded (reading k * 100)) (reading k * 100) k
  linarith

end Small

lemma scaled_reading_small (hk : k < 100 * 2 ^ 45) : scaled (reading k) = k := by
  have hk' : (k : ℚ) < 100 * 2 ^ 45 := by exact_mod_cast hk
  have h := abs_reading_sub_le (k := k) (e := -8) (by norm_num; linarith) (by norm_num)
  have h' := abs_le.mp (rounded_reading_near (by omega : k < 100 * 2 ^ 46))
  have hpos := rounded_nonneg (mul_hundred_nonneg (reading_nonneg k))
  norm_num at h
  exact nearestTo_away_eq (by linarith [h'.1]) (by linarith [h'.2]) hpos

lemma unit_reading_mid (hk : 100 * 2 ^ 45 ≤ k) (hk' : k < 2 ^ 52) : unit (reading k * 100) = -1 := by
  have hnear := abs_le.mp (reading_near (by omega : k < 100 * 2 ^ 46))
  have hlow : (100 * 2 ^ 45 : ℚ) ≤ k := by exact_mod_cast hk
  have hup : (k : ℚ) + 1 ≤ 2 ^ 52 := by exact_mod_cast hk'
  refine unit_eq ?_ ?_ (by norm_num) <;> norm_num <;> linarith [hnear.1, hnear.2]

lemma scaled_reading_above (hk : 100 * 2 ^ 45 ≤ k) (hk' : k < 2 ^ 52) (h : (k : ℚ) + 1 / 4 < reading k * 100) :
    scaled (reading k) = k + 1 := by
  have hnear := abs_le.mp (reading_near (by omega : k < 100 * 2 ^ 46))
  -- the scaled double has one bit behind the point, and the half is the nearest
  have hround : rounded (reading k * 100) = (2 * k + 1 : ℕ) * 2 ^ (-1 : ℤ) := by
    refine rounded_eq_of_abs_lt (by linarith) (unit_reading_mid hk hk') (abs_lt.mpr ⟨?_, ?_⟩) <;>
      push_cast <;> norm_num <;> linarith [hnear.2]
  rw [scaled, hround]
  refine nearestTo_away_eq ?_ ?_ ?_ <;> push_cast <;> norm_num <;> linarith

lemma scaled_reading_below (hk : 100 * 2 ^ 45 ≤ k) (hk' : k < 2 ^ 52) (h : reading k * 100 ≤ k + 1 / 4) :
    scaled (reading k) = k := by
  have hnear := abs_le.mp (reading_near (by omega : k < 100 * 2 ^ 46))
  obtain ⟨n, -, hn, hround⟩ := exists_rounded_eq (mul_hundred_nonneg (reading_nonneg k))
  rw [unit_reading_mid hk hk'] at hn hround
  have hlow := hn.lower
  have hup := hn.upper
  norm_num at hlow hup
  -- at the quarter itself the tie goes to the whole number, which is even on the grid of halves
  have hle : n ≤ 2 * k := by
    by_contra hgt
    have hgt' : (2 * k + 1 : ℚ) ≤ n := by exact_mod_cast not_le.mp hgt
    have heq : n = 2 * k + 1 := by
      have : (n : ℚ) = 2 * k + 1 := by linarith
      exact_mod_cast this
    have heven := hn.even_of_lower (by norm_num; linarith) rfl
    rw [heq] at heven
    exact Nat.not_even_two_mul_add_one k heven
  have hge : 2 * k < n + 2 := by
    have : (2 * k : ℚ) < n + 2 := by linarith [hnear.1]
    exact_mod_cast this
  have hle' : (n : ℚ) ≤ 2 * k := by exact_mod_cast hle
  have hge' : (2 * k : ℚ) ≤ n + 1 := by exact_mod_cast Nat.lt_succ_iff.mp hge
  rw [scaled, hround]
  refine nearestTo_away_eq ?_ ?_ (by positivity) <;> norm_num <;> linarith

lemma scaled_reading_high (hk : 2 ^ 52 ≤ k) (hk' : k < 100 * 2 ^ 46) : scaled (reading k) = k := by
  have hnear := abs_le.mp
    ((rounded_reading_near hk').trans (mul_le_mul_of_nonneg_left (reading_near hk') (by norm_num)))
  have hpos := mul_hundred_nonneg (reading_nonneg k)
  have hlow : (2 ^ 52 : ℚ) ≤ k := by exact_mod_cast hk
  have hrep := representable_rounded hpos
  rw [scaled]
  generalize rounded (reading k * 100) = y at hnear hrep ⊢
  obtain ⟨n, hn⟩ := hrep.exists_eq_mul (e := -1) (by norm_num; linarith [hnear.1])
  rw [zpow_neg_one] at hn
  have hn₁ : n < 2 * k + 2 := by
    have : (n : ℚ) < 2 * k + 2 := by linarith [hnear.2]
    exact_mod_cast this
  have hn₂ : 2 * k < n + 2 := by
    have : (2 * k : ℚ) < n + 2 := by linarith [hnear.1]
    exact_mod_cast this
  -- above the power of two no bit is left behind the point, so that the half is no double
  have hne : n ≠ 2 * k + 1 := by
    rintro rfl
    push_cast at hn
    obtain ⟨j, hj⟩ := hrep.exists_eq_mul (e := 0) (by norm_num; linarith)
    rw [zpow_zero, mul_one] at hj
    have heq : 2 * k + 1 = 2 * j := by
      have : (2 * k + 1 : ℚ) = 2 * j := by linarith
      exact_mod_cast this
    omega
  have hle : (n : ℚ) ≤ 2 * k := by exact_mod_cast (by omega : n ≤ 2 * k)
  have hge : (2 * k : ℚ) ≤ n + 1 := by exact_mod_cast (by omega : 2 * k ≤ n + 1)
  refine nearestTo_away_eq ?_ ?_ ?_ <;> linarith

lemma pow_le_rounded (hq : 2 ^ 46 ≤ q) : 2 ^ 52 ≤ rounded (q * 100) :=
  le_rounded (by linarith) (by exact_mod_cast representable_zpow (e := 52) (by norm_num)) (by linarith)

lemma Representable.exists_natCast (h : Representable q) (hq : 2 ^ 52 ≤ q) : ∃ n : ℕ, q = n := by
  obtain ⟨n, hn⟩ := h.exists_eq_mul (e := 0) (by exact_mod_cast hq)
  exact ⟨n, by rw [hn, zpow_zero, mul_one]⟩

lemma rounded_print (h : Representable q) (hq : 2 ^ 46 ≤ q) : rounded (nearestTo .toEven (q * 100) / 100) = q := by
  obtain ⟨m, e, hf, he, rfl⟩ := h.exists_full (e := -6) (by exact_mod_cast hq) (by norm_num)
  have hp : (2 : ℚ) ^ (-6 : ℤ) ≤ 2 ^ e := zpow_le_zpow_right₀ (by norm_num) he
  norm_num at hp
  have hn := isNearest_nearestTo .toEven (by positivity : 0 ≤ (m : ℚ) * 2 ^ e * 100)
  refine hf.rounded_eq (abs_lt.mpr ⟨?_, ?_⟩) fun hm => ?_
  · linarith [hn.upper]
  · linarith [hn.lower]
  · -- a power of two of that size is a whole number
    obtain ⟨j, hj⟩ := Int.eq_ofNat_of_zero_le (by omega : 0 ≤ e + 6)
    have hwhole : (m : ℚ) * 2 ^ e * 100 = (2 ^ (46 + j) * 100 : ℕ) := by
      rw [hm, show e = -6 + j by omega, zpow_add_nat]
      push_cast
      norm_num
      ring
    rw [hwhole, nearestTo_natCast, ← hwhole]
    linarith

lemma Full.abs_sub_ne {e : ℤ} (h : Full m e) (hx : Representable x) : |m * 2 ^ e * 100 - x| ≠ 50 * 2 ^ e := by
  have hlow := h.low
  have hsucc : (2 : ℚ) ^ (e + 1) = 2 ^ e * 2 := zpow_add_one₀ (by norm_num) e
  intro habs
  -- halfway to a neighbour the number would be an odd multiple of 25 units, with too many bits for a double
  rcases (abs_eq (by positivity)).mp habs with heq | heq
  · have hodd : Odd (25 * (2 * (m - 1) + 1)) := Nat.odd_mul.mpr ⟨by decide, odd_two_mul_add_one _⟩
    refine not_representable_odd (e := e + 1) hodd (by omega) ?_
    push_cast [Nat.cast_sub (by omega : 1 ≤ m)]
    rw [hsucc]
    convert hx using 1
    linarith
  · have hodd : Odd (25 * (2 * m + 1)) := Nat.odd_mul.mpr ⟨by decide, odd_two_mul_add_one _⟩
    refine not_representable_odd (e := e + 1) hodd (by omega) ?_
    push_cast
    rw [hsucc]
    convert hx using 1
    linarith

lemma pow_le_reading (hk : 100 * 2 ^ 46 ≤ k) : 2 ^ 46 ≤ reading k := by
  have hk' : (100 * 2 ^ 46 : ℚ) ≤ k := by exact_mod_cast hk
  exact le_rounded (by positivity) (by exact_mod_cast representable_zpow (e := 46) (by norm_num)) (by linarith)

lemma exists_full_reading (hk : 100 * 2 ^ 46 ≤ k) :
    ∃ m e, Full m e ∧ -6 ≤ e ∧ reading k = m * 2 ^ e ∧ |reading k * 100 - k| ≤ 50 * 2 ^ e := by
  have hpos : (0 : ℚ) ≤ k / 100 := by positivity
  obtain ⟨m, e, hf, he, hm⟩ :=
    (representable_rounded hpos).exists_full (e := -6) (by exact_mod_cast pow_le_reading hk) (by norm_num)
  have hlt : (k : ℚ) / 100 < 2 ^ (e + 53) := by
    by_contra hge
    have hle := le_rounded hpos (representable_zpow (by omega)) (not_lt.mp hge)
    rw [hm, show e + 53 = e + (53 : ℕ) from rfl, zpow_add_nat] at hle
    linarith [hf.bounds.2, two_zpow_pos e]
  exact ⟨m, e, hf, he, hm, abs_reading_sub_le hlt hf.le⟩

lemma reading_scaled_reading (hk : 100 * 2 ^ 46 ≤ k) (hrep : Representable k) :
    reading (scaled (reading k)) = reading k := by
  obtain ⟨m, e, hf, he, hm, hnear⟩ := exists_full_reading hk
  have hp := two_zpow_pos e
  have hlarge := pow_le_rounded (pow_le_reading hk)
  rw [hm] at hnear hlarge
  have hpos : 0 ≤ (m : ℚ) * 2 ^ e * 100 := by positivity
  -- `k` is a double too, so that the scaled one is not further away than `k` is
  have hhalf : |rounded (m * 2 ^ e * 100) - m * 2 ^ e * 100| < 50 * 2 ^ e := by
    refine lt_of_le_of_lt (abs_rounded_sub_le hpos hrep) ?_
    rw [abs_sub_comm]
    exact hnear.lt_of_ne (hf.abs_sub_ne hrep)
  obtain ⟨y, hy⟩ := (representable_rounded hpos).exists_natCast hlarge
  rw [hm, scaled, hy, nearestTo_natCast, reading]
  rw [hy] at hhalf
  obtain ⟨hlow, hup⟩ := abs_lt.mp hhalf
  refine hf.rounded_eq (abs_lt.mpr ⟨by linarith, by linarith⟩) fun hm' => ?_
  have hexact : Representable (m * 2 ^ e * 100) := by
    refine ⟨100, e + (52 : ℕ), by norm_num, by omega, ?_⟩
    rw [hm', zpow_add_nat]
    push_cast
    ring
  rw [← hy, rounded_of_representable hexact]
  linarith

lemma representable_scaled (hq : 0 ≤ q) (h : 100 * 2 ^ 46 ≤ scaled q) : Representable (scaled q) := by
  have hpos := mul_hundred_nonneg hq
  have hlow := (isNearest_nearestTo .awayFromZero (rounded_nonneg hpos)).lower
  have hk : (100 * 2 ^ 46 : ℚ) ≤ scaled q := by exact_mod_cast h
  rw [scaled] at hk
  obtain ⟨n, hn⟩ := (representable_rounded hpos).exists_natCast (by linarith)
  rw [scaled, hn, nearestTo_natCast, ← hn]
  exact representable_rounded hpos

lemma pow_le_of_top_le (hq : 0 ≤ q) (h : top ≤ rounded (q * 100)) : 2 ^ 46 ≤ q := by
  by_contra hsmall
  have hle := rounded_le (mul_hundred_nonneg hq) (representable_natCast (n := 100 * 2 ^ 46) (by norm_num))
    (by push_cast; linarith)
  exact not_lt.mpr h (hle.trans_lt (natCast_lt_top (by norm_num)))

lemma settled_large (hq : Representable q) (h : 100 * 2 ^ 46 ≤ scaled q) :
    Representable (settled q) ∧ 2 ^ 46 ≤ settled q ∧ settled (settled q) = settled q := by
  rcases lt_or_ge (rounded (q * 100)) top with hlt | hge
  · have hs : settled q = reading (scaled q) := if_pos hlt
    have hback := reading_scaled_reading h (representable_scaled hq.nonneg h)
    rw [hs]
    refine ⟨representable_rounded (by positivity), pow_le_reading h, ?_⟩
    rw [settled, ← scaled, ← reading, hback, ite_self]
  · have hs : settled q = q := if_neg (not_lt.mpr hge)
    rw [hs]
    exact ⟨hq, pow_le_of_top_le hq.nonneg hge, hs⟩

lemma hundredths_eq_scaled (hq : 0 ≤ q) (h : scaled q < 100 * 2 ^ 46) : hundredths q = scaled q := by
  have hlt : rounded (q * 100) < top := by
    have hpos := rounded_nonneg (mul_hundred_nonneg hq)
    have hup := (isNearest_nearestTo .awayFromZero hpos).upper
    have hk : (scaled q : ℚ) + 1 ≤ (100 * 2 ^ 46 : ℕ) := by exact_mod_cast h
    rw [scaled] at hk
    exact lt_trans (by linarith) (natCast_lt_top (by norm_num : 100 * 2 ^ 46 < 2 ^ 53))
  rw [hundredths_eq hlt, print_reading h]

/-- The counts of hundredths that are one more when they are read and printed again: they have 45 bits before the
point, and are read as a double that lies further up than a quarter of a hundredth. -/
def Creeps (k : ℕ) : Prop := 100 * 2 ^ 45 ≤ k ∧ k < 2 ^ 52 ∧ (k : ℚ) + 1 / 4 < reading k * 100

lemma hundredths_reading_small (hk : k < 100 * 2 ^ 46) : hundredths (reading k) = k ↔ ¬ Creeps k := by
  have hsame (h : scaled (reading k) = k) : hundredths (reading k) = k := by
    rw [hundredths_eq_scaled (reading_nonneg k) (h.symm ▸ hk), h]
  rcases lt_or_ge k (100 * 2 ^ 45) with h₁ | h₁
  · exact iff_of_true (hsame (scaled_reading_small h₁)) fun h => absurd h.1 (by omega)
  rcases lt_or_ge k (2 ^ 52) with h₂ | h₂
  · by_cases hcreep : (k : ℚ) + 1 / 4 < reading k * 100
    · have hnext := scaled_reading_above h₁ h₂ hcreep
      refine iff_of_false ?_ (not_not.mpr ⟨h₁, h₂, hcreep⟩)
      rw [hundredths_eq_scaled (reading_nonneg k) (by omega), hnext]
      omega
    · exact iff_of_true (hsame (scaled_reading_below h₁ h₂ (not_lt.mp hcreep))) fun h => hcreep h.2.2
  · exact iff_of_true (hsame (scaled_reading_high h₂ hk)) fun h => absurd h.2.1 (by omega)

lemma reading_hundredths_large (hq : Representable q) (h : 100 * 2 ^ 46 ≤ scaled q) :
    reading (hundredths q) = settled q := by
  obtain ⟨hrep, hlarge, -⟩ := settled_large hq h
  exact rounded_print hrep hlarge

/-- The hundredths of a double are the hundredths of what they are read as, unless they creep. -/
theorem hundredths_reading_iff (hq : Representable q) :
    hundredths (reading (hundredths q)) = hundredths q ↔ ¬ Creeps (hundredths q) := by
  rcases lt_or_ge (scaled q) (100 * 2 ^ 46) with h | h
  · rw [hundredths_eq_scaled hq.nonneg h]
    exact hundredths_reading_small h
  · obtain ⟨-, hlarge, hsettled⟩ := settled_large hq h
    have hlow := (isNearest_nearestTo .toEven (by linarith : 0 ≤ settled q * 100)).upper
    rw [reading_hundredths_large hq h]
    refine iff_of_true (by rw [hundredths, hsettled, hundredths]) fun hc => ?_
    have hk : (hundredths q : ℚ) + 1 ≤ 2 ^ 52 := by exact_mod_cast hc.2.1
    rw [hundredths] at hk
    linarith

theorem reading_hundredths_lt_top (hq : Representable q) (hlt : q < top) : reading (hundredths q) < top := by
  rcases lt_or_ge (scaled q) (100 * 2 ^ 46) with h | h
  · have hk : (0 : ℚ) ≤ scaled q := Nat.cast_nonneg _
    have hle := rounded_le (div_nonneg hk (by norm_num)) (representable_natCast (by omega))
      (div_le_self hk (by norm_num : (1 : ℚ) ≤ 100))
    rw [hundredths_eq_scaled hq.nonneg h]
    exact hle.trans_lt (natCast_lt_top (by omega))
  · rw [reading_hundredths_large hq h, settled]
    split_ifs with hs
    · exact rounded_nearestTo_lt (rounded_nonneg (mul_hundred_nonneg hq.nonneg)) hs
    · exact hlt

end Toolpath.Number
