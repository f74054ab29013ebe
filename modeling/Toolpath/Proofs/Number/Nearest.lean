import Mathlib.Algebra.Order.Field.Power
import Mathlib.Data.Int.Log
import Mathlib.Data.Rat.Floor
import Mathlib.Tactic.FieldSimp
import Mathlib.Tactic.Lemma
import Mathlib.Tactic.Linarith
import Mathlib.Tactic.Positivity
import Mathlib.Tactic.Ring
import Toolpath.Number.Binary

/-!
Rounding of fractions: to whole numbers, and to the numbers that a double with an unbounded exponent can
hold. No such number lies nearer than the rounded one.
-/

namespace Toolpath.Number

structure IsNearest (tie : Tie) (q : ℚ) (n : ℕ) : Prop where
  lower : (n : ℚ) - 1 / 2 ≤ q
  upper : q ≤ n + 1 / 2
  even_of_lower : q = n - 1 / 2 → tie = .toEven → Even n
  even_of_upper : q = n + 1 / 2 → tie = .toEven ∧ Even n

variable {tie : Tie} {q : ℚ} {n k : ℕ}

lemma IsNearest.le_of_isNearest (hn : IsNearest tie q n) (hk : IsNearest tie q k) : k ≤ n := by
  by_contra hlt
  have hcast : (n : ℚ) + 1 ≤ k := by exact_mod_cast not_le.mp hlt
  have hlow := hk.lower
  have hup := hn.upper
  obtain ⟨htie, heven⟩ := hn.even_of_upper (by linarith)
  have hk' : Even k := hk.even_of_lower (by linarith) htie
  have hkn : k = n + 1 := by
    have : (k : ℚ) = n + 1 := by linarith
    exact_mod_cast this
  rw [hkn, Nat.even_add_one] at hk'
  exact hk' heven

lemma IsNearest.unique (hn : IsNearest tie q n) (hk : IsNearest tie q k) : n = k :=
  le_antisymm (hk.le_of_isNearest hn) (hn.le_of_isNearest hk)

lemma IsNearest.of_abs_lt (h : |q - n| < 1 / 2) : IsNearest tie q n := by
  obtain ⟨hlow, hup⟩ := abs_lt.mp h
  refine ⟨by linarith, by linarith, fun he => ?_, fun he => ?_⟩
  · linarith
  · linarith

lemma isNearest_self (n : ℕ) : IsNearest tie n n := .of_abs_lt (by norm_num)

lemma IsNearest.abs_sub_le (hn : IsNearest tie q n) (k : ℕ) : |(n : ℚ) - q| ≤ |(k : ℚ) - q| := by
  have hlow := hn.lower
  have hup := hn.upper
  have hhalf : |(n : ℚ) - q| ≤ 1 / 2 := abs_le.mpr ⟨by linarith, by linarith⟩
  rcases lt_trichotomy k n with hk | hk | hk
  · have hcast : (k : ℚ) + 1 ≤ n := by exact_mod_cast hk
    have := neg_abs_le ((k : ℚ) - q)
    linarith
  · rw [hk]
  · have hcast : (n : ℚ) + 1 ≤ k := by exact_mod_cast hk
    have := le_abs_self ((k : ℚ) - q)
    linarith

section Quotient

variable {r d : ℕ}

lemma div_eq_add_mod (n : ℕ) (hd : 0 < d) : (n : ℚ) / d = (n / d : ℕ) + (n % d : ℕ) / d := by
  have hpos : (0 : ℚ) < d := by exact_mod_cast hd
  have hn : (n : ℚ) = d * (n / d : ℕ) + (n % d : ℕ) := by exact_mod_cast (Nat.div_add_mod n d).symm
  conv_lhs => rw [hn]
  field_simp

lemma mod_div_lt_one (n : ℕ) (hd : 0 < d) : ((n % d : ℕ) : ℚ) / d < 1 := by
  rw [div_lt_one (by exact_mod_cast hd)]
  exact_mod_cast Nat.mod_lt n hd

lemma div_lt_half (h : 2 * r < d) : (r : ℚ) / d < 1 / 2 := by
  have hd : (0 : ℚ) < d := by exact_mod_cast (Nat.zero_le _).trans_lt h
  have hr : (2 * r : ℚ) < d := by exact_mod_cast h
  rw [div_lt_div_iff₀ hd (by norm_num)]
  linarith

lemma div_eq_half (hd : 0 < d) (h : 2 * r = d) : (r : ℚ) / d = 1 / 2 := by
  have hd' : (d : ℚ) ≠ 0 := by exact_mod_cast hd.ne'
  have hr : (2 * r : ℚ) = d := by exact_mod_cast h
  rw [div_eq_div_iff hd' (by norm_num)]
  linarith

lemma half_lt_div (hd : 0 < d) (h : d < 2 * r) : 1 / 2 < (r : ℚ) / d := by
  have hd' : (0 : ℚ) < d := by exact_mod_cast hd
  have hr : (d : ℚ) < 2 * r := by exact_mod_cast h
  rw [div_lt_div_iff₀ (by norm_num) hd']
  linarith

end Quotient

lemma isNearest_roundDiv (tie : Tie) (num : ℕ) {den : ℕ} (hden : 0 < den) :
    IsNearest tie ((num : ℚ) / den) (roundDiv tie num den) := by
  have hr : (0 : ℚ) ≤ (num % den : ℕ) / den := by positivity
  have hr' := mod_div_lt_one num hden
  rw [div_eq_add_mod num hden, roundDiv.eq_def]
  dsimp only
  rcases lt_trichotomy (2 * (num % den)) den with h | h | h
  · have hh := div_lt_half h
    rw [if_pos h]
    exact .of_abs_lt (abs_lt.mpr ⟨by linarith, by linarith⟩)
  · rw [if_neg (by omega), if_neg (by omega), div_eq_half hden h]
    cases tie with
    | toEven =>
      dsimp only
      split
      · rename_i he
        exact ⟨by linarith, by linarith, fun _ _ => Nat.even_iff.mpr he, fun _ => ⟨rfl, Nat.even_iff.mpr he⟩⟩
      · rename_i ho
        have he : Even (num / den + 1) := by
          rw [Nat.even_add_one, Nat.even_iff]
          exact ho
        refine ⟨?_, ?_, fun _ _ => he, fun _ => ⟨rfl, he⟩⟩ <;> push_cast <;> linarith
    | awayFromZero =>
      refine ⟨?_, ?_, fun _ => nofun, fun h => ?_⟩ <;> push_cast at * <;> linarith
  · have hh := half_lt_div hden h
    rw [if_neg (by omega), if_pos h]
    refine .of_abs_lt (abs_lt.mpr ⟨?_, ?_⟩) <;> push_cast <;> linarith

def nearestTo (tie : Tie) (q : ℚ) : ℕ := roundDiv tie q.num.toNat q.den

lemma isNearest_nearestTo (tie : Tie) (hq : 0 ≤ q) : IsNearest tie q (nearestTo tie q) := by
  have h := isNearest_roundDiv tie q.num.toNat q.den_pos
  have hnum : ((q.num.toNat : ℕ) : ℚ) = q.num := by exact_mod_cast Int.toNat_of_nonneg (Rat.num_nonneg.mpr hq)
  rwa [hnum, Rat.num_div_den] at h

lemma IsNearest.nearestTo_eq (hq : 0 ≤ q) (h : IsNearest tie q n) : nearestTo tie q = n :=
  (isNearest_nearestTo tie hq).unique h

lemma roundDiv_eq (tie : Tie) (num : ℕ) {den : ℕ} (hden : 0 < den) :
    roundDiv tie num den = nearestTo tie ((num : ℚ) / den) :=
  ((isNearest_roundDiv tie num hden).nearestTo_eq (by positivity)).symm

@[simp] lemma nearestTo_natCast (tie : Tie) (n : ℕ) : nearestTo tie n = n :=
  (isNearest_self n).nearestTo_eq (by positivity)

def unit (q : ℚ) : ℤ := max (Int.log 2 q - 52) (-1074)

/-- The double nearest to `q`, ties to even. -/
def rounded (q : ℚ) : ℚ := nearestTo .toEven (q / 2 ^ unit q) * 2 ^ unit q

/-- A whole number of at most 53 bits times a power of two. -/
def Representable (q : ℚ) : Prop := ∃ (m : ℕ) (e : ℤ), m < 2 ^ 53 ∧ -1074 ≤ e ∧ q = m * 2 ^ e

lemma two_zpow_pos (e : ℤ) : (0 : ℚ) < 2 ^ e := zpow_pos (by norm_num) e

lemma zpow_le_iff {e : ℤ} (hq : 0 < q) : (2 : ℚ) ^ e ≤ q ↔ e ≤ Int.log 2 q := by
  have h := Int.zpow_le_iff_le_log (by norm_num : 1 < 2) (x := e) hq
  exact_mod_cast h

lemma lt_zpow_iff {e : ℤ} (hq : 0 < q) : q < (2 : ℚ) ^ e ↔ Int.log 2 q < e := by
  have h := Int.lt_zpow_iff_log_lt (by norm_num : 1 < 2) (x := e) hq
  exact_mod_cast h

lemma unit_le_of_lt {e : ℤ} (hq : 0 < q) (h : q < (2 : ℚ) ^ e) : unit q ≤ max (e - 53) (-1074) := by
  have := (lt_zpow_iff hq).mp h
  rw [unit]
  omega

lemma le_unit_of_le {e : ℤ} (hq : 0 < q) (h : (2 : ℚ) ^ e ≤ q) : e - 52 ≤ unit q := by
  have := (zpow_le_iff hq).mp h
  rw [unit]
  omega

lemma unit_eq {e : ℤ} (h : (2 : ℚ) ^ (e + 52) ≤ q) (h' : q < 2 ^ (e + 53)) (he : -1074 ≤ e) : unit q = e := by
  have hq : 0 < q := (two_zpow_pos _).trans_le h
  have hlow := le_unit_of_le hq h
  have hup := unit_le_of_lt hq h'
  omega

lemma neg_1074_le_unit (q : ℚ) : -1074 ≤ unit q := le_max_right _ _

lemma lt_zpow_unit (hq : 0 < q) : q < 2 ^ (unit q + 53) :=
  (lt_zpow_iff hq).mpr (by rw [unit]; omega)

lemma zpow_unit_le (hq : 0 < q) (h : -1074 < unit q) : (2 : ℚ) ^ (unit q + 52) ≤ q :=
  (zpow_le_iff hq).mpr (by rw [unit] at *; omega)

lemma zpow_add_nat (e : ℤ) (k : ℕ) : (2 : ℚ) ^ (e + k) = 2 ^ e * 2 ^ k := by
  rw [zpow_add₀ (by norm_num), zpow_natCast]

lemma Representable.nonneg (h : Representable q) : 0 ≤ q := by
  obtain ⟨m, e, -, -, rfl⟩ := h
  have := two_zpow_pos e
  positivity

lemma representable_zero : Representable 0 := ⟨0, 0, by norm_num, by norm_num, by simp⟩

lemma representable_natCast (h : n < 2 ^ 53) : Representable n := ⟨n, 0, h, by norm_num, by simp⟩

lemma representable_of_le {e : ℤ} (hn : n ≤ 2 ^ 53) (he : -1074 ≤ e) : Representable (n * 2 ^ e) := by
  rcases hn.lt_or_eq with h | rfl
  · exact ⟨n, e, h, he, rfl⟩
  · refine ⟨2 ^ 52, e + 1, by norm_num, by omega, ?_⟩
    rw [zpow_add₀ (by norm_num)]
    push_cast
    ring

lemma exists_rounded_eq (hq : 0 ≤ q) : ∃ n : ℕ, n ≤ 2 ^ 53 ∧ IsNearest .toEven (q / 2 ^ unit q) n ∧
    rounded q = n * 2 ^ unit q := by
  have hu := two_zpow_pos (unit q)
  have hn := isNearest_nearestTo .toEven (div_nonneg hq hu.le)
  refine ⟨_, ?_, hn, rfl⟩
  rcases hq.eq_or_lt with rfl | hpos
  · simp [nearestTo, roundDiv]
  · have hlt : q / 2 ^ unit q < 2 ^ 53 := by
      rw [div_lt_iff₀ hu, mul_comm, ← zpow_add_nat]
      exact lt_zpow_unit hpos
    have hlow := hn.lower
    by_contra hgt
    have hcast : (2 : ℚ) ^ 53 + 1 ≤ nearestTo .toEven (q / 2 ^ unit q) := by exact_mod_cast not_le.mp hgt
    linarith

lemma representable_rounded (hq : 0 ≤ q) : Representable (rounded q) := by
  obtain ⟨n, hn, -, he⟩ := exists_rounded_eq hq
  rw [he]
  exact representable_of_le hn (neg_1074_le_unit q)

@[simp] lemma rounded_zero : rounded 0 = 0 := by simp [rounded, nearestTo, roundDiv]

lemma rounded_nonneg (hq : 0 ≤ q) : 0 ≤ rounded q := (representable_rounded hq).nonneg

lemma abs_rounded_sub_le_grid (hq : 0 ≤ q) (k : ℕ) : |rounded q - q| ≤ |k * 2 ^ unit q - q| := by
  obtain ⟨n, -, hn, he⟩ := exists_rounded_eq hq
  have hu := two_zpow_pos (unit q)
  have hscale : ∀ j : ℕ, |j * 2 ^ unit q - q| = |j - q / 2 ^ unit q| * 2 ^ unit q := by
    intro j
    rw [← abs_of_pos hu, ← abs_mul, abs_of_pos hu, sub_mul, div_mul_cancel₀ _ hu.ne']
  rw [he, hscale, hscale]
  exact mul_le_mul_of_nonneg_right (hn.abs_sub_le k) hu.le

theorem abs_rounded_sub_le {z : ℚ} (hq : 0 ≤ q) (hz : Representable z) : |rounded q - q| ≤ |z - q| := by
  obtain ⟨m, e, hm, he, rfl⟩ := hz
  by_cases hgrid : unit q ≤ e
  · obtain ⟨k, hk⟩ := Int.eq_ofNat_of_zero_le (sub_nonneg.mpr hgrid)
    have hsame : (m : ℚ) * 2 ^ e = (m * 2 ^ k : ℕ) * 2 ^ unit q := by
      rw [show e = unit q + k by omega, zpow_add_nat]
      push_cast
      ring
    rw [hsame]
    exact abs_rounded_sub_le_grid hq _
  · rcases hq.eq_or_lt with rfl | hpos
    · rw [rounded_zero, sub_zero, abs_zero]
      exact abs_nonneg _
    have hb : (2 : ℚ) ^ (unit q + 52) ≤ q := zpow_unit_le hpos (by omega)
    have hmz : (m : ℚ) * 2 ^ e ≤ 2 ^ (unit q + 52) := by
      have hm' : (m : ℚ) ≤ 2 ^ 53 := by exact_mod_cast hm.le
      calc (m : ℚ) * 2 ^ e ≤ 2 ^ 53 * 2 ^ (unit q - 1) :=
            mul_le_mul hm' (zpow_le_zpow_right₀ (by norm_num) (by omega)) (two_zpow_pos e).le (by norm_num)
        _ = 2 ^ (unit q + 52) := by
          rw [mul_comm, ← zpow_add_nat]
          congr 1
          push_cast
          ring
    have hedge := abs_rounded_sub_le_grid hq (2 ^ 52)
    have hcast : ((2 ^ 52 : ℕ) : ℚ) * 2 ^ unit q = 2 ^ (unit q + 52) := by
      rw [mul_comm]
      exact_mod_cast (zpow_add_nat (unit q) 52).symm
    rw [hcast, abs_of_nonpos (by linarith : (2 : ℚ) ^ (unit q + 52) - q ≤ 0)] at hedge
    rw [abs_of_nonpos (by linarith : (m : ℚ) * 2 ^ e - q ≤ 0)]
    linarith

theorem rounded_of_representable (h : Representable q) : rounded q = q := by
  have := abs_rounded_sub_le h.nonneg h
  rw [sub_self, abs_zero] at this
  exact sub_eq_zero.mp (abs_nonpos_iff.mp this)

lemma rounded_le {z : ℚ} (hq : 0 ≤ q) (hz : Representable z) (h : q ≤ z) : rounded q ≤ z := by
  by_contra hlt
  have := abs_rounded_sub_le hq hz
  rw [abs_of_nonneg (by linarith), abs_of_nonneg (by linarith)] at this
  linarith

lemma le_rounded {z : ℚ} (hq : 0 ≤ q) (hz : Representable z) (h : z ≤ q) : z ≤ rounded q := by
  by_contra hlt
  have := abs_rounded_sub_le hq hz
  rw [abs_of_nonpos (by linarith), abs_of_nonpos (by linarith)] at this
  linarith

lemma rounded_eq_of_abs_lt {e : ℤ} (hq : 0 ≤ q) (he : unit q = e) (h : |q - n * 2 ^ e| < 2 ^ e / 2) :
    rounded q = n * 2 ^ e := by
  have hu := two_zpow_pos e
  have hn : IsNearest .toEven (q / 2 ^ unit q) n := by
    apply IsNearest.of_abs_lt
    rw [he, ← mul_lt_mul_iff_left₀ hu, ← abs_of_pos hu, ← abs_mul, abs_of_pos hu, sub_mul, div_mul_cancel₀ _ hu.ne']
    linarith
  rw [rounded, hn.nearestTo_eq (by positivity), he]

def top : ℚ := 2 ^ 1024

lemma pow_mul_zpow_eq_top {k : ℕ} {e : ℤ} (h : e + k = 1024) : (2 : ℚ) ^ k * 2 ^ e = top := by
  rw [mul_comm, ← zpow_add_nat, h, top]
  exact zpow_natCast 2 1024

lemma top_pos : 0 < top := pow_pos (by norm_num) 1024

lemma pow_le_top {k : ℕ} (h : k ≤ 1024) : (2 : ℚ) ^ k ≤ top := pow_le_pow_right₀ (by norm_num) h

lemma lt_top_of_le (h : q ≤ 2 ^ 64) : q < top := h.trans_lt (pow_lt_pow_right₀ (by norm_num) (by norm_num))

lemma representable_zpow {e : ℤ} (he : -1074 ≤ e) : Representable (2 ^ e) :=
  ⟨1, e, by norm_num, he, by rw [Nat.cast_one, one_mul]⟩

lemma representable_top : Representable top := by
  rw [← pow_mul_zpow_eq_top (by norm_num : (1024 : ℤ) + (0 : ℕ) = 1024), pow_zero, one_mul]
  exact representable_zpow (by norm_num)

lemma natCast_lt_top (h : n < 2 ^ 53) : (n : ℚ) < top := by
  have hn : (n : ℚ) < 2 ^ 53 := by exact_mod_cast h
  exact hn.trans_le (pow_le_pow_right₀ (by norm_num) (by norm_num))

end Toolpath.Number
