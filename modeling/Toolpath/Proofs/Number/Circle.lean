import Toolpath.Number.Angle
import Toolpath.Proofs.Number.Length

/-!
The cosine and sine of a double of at most about one full turn are the real ones, to the last bit. The fixed-point
numbers cut off every term, and the errors of the first terms grow with the powers before the factorials win.
-/

namespace Toolpath.Number

open Finset

variable {x : Float} {z c b : ℝ} {k i : ℕ} {t square : ℤ}

section

variable {F : Type*} [AddCommGroup F] [LinearOrder F] [IsOrderedAddMonoid F] {u v w r s t : F}

lemma near_trans (h : |u - v| ≤ r) (h' : |v - w| ≤ s) (ht : r + s ≤ t) : |u - w| ≤ t :=
  (abs_sub_le u v w).trans ((add_le_add h h').trans ht)

lemma abs_le_of_near (h : |u - v| ≤ r) (hv : |v| ≤ s) (ht : r + s ≤ t) : |u| ≤ t := by
  rw [← sub_zero v] at hv
  rw [← sub_zero u]
  exact near_trans h hv ht

lemma near_sub {a b : F} (h : |u - (w + a)| ≤ r) (h' : |v - (w + b)| ≤ s) (ht : r + s ≤ t) :
    |u - v - (a - b)| ≤ t := by
  have hsplit : u - v - (a - b) = (u - (w + a)) - (v - (w + b)) := by abel
  rw [hsplit]
  exact (abs_sub _ _).trans ((add_le_add h h').trans ht)

end

noncomputable def seriesTerm (z : ℝ) (k i : ℕ) : ℝ := (-1) ^ i * z ^ (k + 2 * i) / (k + 2 * i).factorial

lemma seriesTerm_succ (z : ℝ) (k i : ℕ) : seriesTerm z k (i + 1) =
    -(seriesTerm z k i * z ^ 2) / ((k + 2 * i + 1) * (k + 2 * i + 2) : ℕ) := by
  rw [seriesTerm, seriesTerm, show k + 2 * (i + 1) = k + 2 * i + 1 + 1 by ring, Nat.factorial_succ, Nat.factorial_succ]
  push_cast
  field_simp
  ring

lemma sum_exp_mul_I (z : ℝ) (n : ℕ) : ∑ m ∈ range (2 * n), (z * Complex.I) ^ m / (m.factorial : ℂ) =
    (∑ i ∈ range n, seriesTerm z 0 i : ℝ) + (∑ i ∈ range n, seriesTerm z 1 i : ℝ) * Complex.I := by
  induction n with
  | zero => simp
  | succ n ih =>
    have hpow : Complex.I ^ (2 * n) = (-1) ^ n := by rw [pow_mul, Complex.I_sq]
    rw [mul_add_one, sum_range_succ, sum_range_succ, ih, sum_range_succ, sum_range_succ, seriesTerm, seriesTerm, mul_pow,
      mul_pow, pow_succ Complex.I, hpow, zero_add, add_comm 1]
    push_cast
    ring

lemma norm_exp_sub_sum_le (hz : |z| ≤ 7) :
    ‖Complex.exp (z * Complex.I) - ∑ m ∈ range (2 * 60), (z * Complex.I) ^ m / (m.factorial : ℂ)‖ ≤ 2⁻¹ ^ 80 := by
  have hnorm : ‖(z : ℂ) * Complex.I‖ = |z| := by simp
  have hhalf : ‖(z : ℂ) * Complex.I‖ / (2 * 60 : ℕ).succ ≤ 1 / 2 := by
    rw [hnorm]
    norm_num
    linarith
  refine (Complex.exp_bound' hhalf).trans ?_
  rw [hnorm]
  have hpow : |z| ^ (2 * 60) ≤ 7 ^ (2 * 60) := pow_le_pow_left₀ (abs_nonneg z) hz _
  calc |z| ^ (2 * 60) / (2 * 60 : ℕ).factorial * 2 ≤ 7 ^ (2 * 60) / (2 * 60 : ℕ).factorial * 2 := by gcongr
    _ ≤ 2⁻¹ ^ 80 := by norm_num [Nat.factorial]

lemma abs_cos_sub_sum_le (hz : |z| ≤ 7) : |Real.cos z - ∑ i ∈ range 60, seriesTerm z 0 i| ≤ 2⁻¹ ^ 80 := by
  have h := (Complex.abs_re_le_norm _).trans (norm_exp_sub_sum_le hz)
  rw [sum_exp_mul_I, Complex.exp_mul_I] at h
  simpa [Complex.cos_ofReal_re] using h

lemma abs_sin_sub_sum_le (hz : |z| ≤ 7) : |Real.sin z - ∑ i ∈ range 60, seriesTerm z 1 i| ≤ 2⁻¹ ^ 80 := by
  have h := (Complex.abs_im_le_norm _).trans (norm_exp_sub_sum_le hz)
  rw [sum_exp_mul_I, Complex.exp_mul_I] at h
  simpa [Complex.sin_ofReal_re] using h

lemma seriesUnit_pos : (0 : ℝ) < seriesUnit := by norm_num [seriesUnit, seriesPlaces]

lemma abs_ediv_sub_le (n : ℤ) {d : ℕ} (hd : 0 < d) : |((n / d : ℤ) : ℝ) - n / d| ≤ 1 := by
  have hd' : (0 : ℝ) < d := by exact_mod_cast hd
  have hlow : ((n / d : ℤ) : ℝ) * d ≤ n := by exact_mod_cast Int.ediv_mul_le n (by omega)
  have hup : (n : ℝ) < ((n / d : ℤ) + 1) * d := by exact_mod_cast Int.lt_ediv_add_one_mul_self n (by omega)
  rw [← le_div_iff₀ hd'] at hlow
  rw [← div_lt_iff₀ hd'] at hup
  rw [abs_le]
  constructor <;> linarith

lemma abs_next_sub_le (hz : z ^ 2 = square / seriesUnit) (hle : z ^ 2 ≤ 49) {d : ℕ} (hd : 0 < d)
    (h : |t / seriesUnit - c| ≤ b) :
    |((-(t * square) / (seriesUnit * d : ℕ) : ℤ) : ℝ) / seriesUnit - -(c * z ^ 2) / d| ≤ b * 49 / d + 1 / seriesUnit := by
  have hu := seriesUnit_pos
  have hd' : (0 : ℝ) < d := by exact_mod_cast hd
  have hcut := abs_ediv_sub_le (-(t * square)) (Nat.mul_pos (by exact_mod_cast hu) hd : 0 < seriesUnit * d)
  generalize -(t * square) / ((seriesUnit * d : ℕ) : ℤ) = n at *
  have hexact : ((-(t * square) : ℤ) : ℝ) / (seriesUnit * d : ℕ) = seriesUnit * (-(t / seriesUnit * z ^ 2) / d) := by
    rw [hz]
    push_cast
    field_simp
  have hscale : (n : ℝ) / seriesUnit - -(c * z ^ 2) / d =
      (n - seriesUnit * (-(t / seriesUnit * z ^ 2) / d)) / seriesUnit + -(t / seriesUnit - c) * z ^ 2 / d := by
    field_simp
    ring
  rw [hexact] at hcut
  rw [hscale, add_comm]
  refine (abs_add_le _ _).trans (add_le_add ?_ ?_)
  · rw [abs_div, abs_mul, abs_neg, abs_of_pos hd', abs_of_nonneg (sq_nonneg z)]
    have hb := (abs_nonneg _).trans h
    gcongr
  · rw [abs_div, abs_of_pos hu]
    gcongr

def errorBudget : ℕ → ℝ
  -- How far a term may be off, in units of the first error: the powers of an angle of at most 7 grow faster than
  -- the factorials up to the sixth.
  | 0 | 1 => 1
  | 2 | 3 => 26
  | 4 | 5 => 110
  | _ + 6 => 200

lemma errorBudget_next (k : ℕ) : errorBudget k * 49 / ((k + 1) * (k + 2) : ℕ) + 1 ≤ errorBudget (k + 2) := by
  match k with
  | 0 | 1 | 2 | 3 | 4 | 5 => norm_num [errorBudget]
  | k + 6 =>
    have hk : (0 : ℝ) ≤ k := Nat.cast_nonneg k
    have h : errorBudget (k + 6) = 200 := rfl
    have h' : errorBudget (k + 6 + 2) = 200 := rfl
    rw [h, h']
    push_cast
    rw [← le_sub_iff_add_le, div_le_iff₀ (by positivity)]
    nlinarith

lemma errorBudget_le (k : ℕ) : errorBudget k ≤ 200 := by
  match k with
  | 0 | 1 | 2 | 3 | 4 | 5 => norm_num [errorBudget]
  | k + 6 => exact le_rfl

section

variable {ε : ℝ} (hε : 1 / seriesUnit ≤ ε) (hz : z ^ 2 = square / seriesUnit) (hle : z ^ 2 ≤ 49)

include hε hz hle

lemma abs_next_term_sub_le (h : |t / seriesUnit - seriesTerm z k i| ≤ errorBudget (k + 2 * i) * ε) :
    |((-(t * square) / (seriesUnit * ((k + 2 * i + 1) * (k + 2 * i + 2)) : ℕ) : ℤ) : ℝ) / seriesUnit -
      seriesTerm z k (i + 1)| ≤ errorBudget (k + 2 * (i + 1)) * ε := by
  have hε₀ : 0 ≤ ε := (one_div_pos.mpr seriesUnit_pos).le.trans hε
  have hnext := abs_next_sub_le hz hle (Nat.mul_pos (k + 2 * i).succ_pos (k + 2 * i + 1).succ_pos) h
  have hstep := mul_le_mul_of_nonneg_right (errorBudget_next (k + 2 * i)) hε₀
  rw [add_mul, one_mul] at hstep
  rw [seriesTerm_succ, show k + 2 * (i + 1) = k + 2 * i + 2 by ring]
  refine hnext.trans (le_trans (add_le_add (le_of_eq ?_) hε) hstep)
  ring

lemma abs_powerSeries_sub_le (fuel : ℕ) {i : ℕ} {t : ℤ} (sum : ℤ)
    (h : |t / seriesUnit - seriesTerm z k i| ≤ errorBudget (k + 2 * i) * ε) :
    |(powerSeries square fuel (k + 2 * i) t sum : ℝ) / seriesUnit -
      (sum / seriesUnit + ∑ l ∈ range fuel, seriesTerm z k (i + l))| ≤ fuel * (200 * ε) := by
  -- By induction on the terms that are left, each of which keeps within its budget.
  induction fuel generalizing i t sum with
  | zero => simp [powerSeries]
  | succ fuel ih =>
    have hrest := ih (sum + t) (abs_next_term_sub_le hε hz hle h)
    have hε₀ : 0 ≤ ε := (one_div_pos.mpr seriesUnit_pos).le.trans hε
    have hterm : |t / seriesUnit - seriesTerm z k i| ≤ 200 * ε :=
      h.trans (mul_le_mul_of_nonneg_right (errorBudget_le _) hε₀)
    have hsum : ∑ l ∈ range (fuel + 1), seriesTerm z k (i + l) =
        seriesTerm z k i + ∑ l ∈ range fuel, seriesTerm z k (i + 1 + l) := by
      rw [sum_range_succ', add_zero, add_comm]
      simp only [add_comm 1, add_assoc]
    have hsplit : ((sum + t : ℤ) : ℝ) / seriesUnit = sum / seriesUnit + t / seriesUnit := by
      push_cast
      rw [add_div]
    rw [hsplit] at hrest
    rw [powerSeries, hsum]
    change |(powerSeries square fuel (k + 2 * (i + 1)) _ (sum + t) : ℝ) / seriesUnit - _| ≤ _
    generalize (powerSeries square fuel (k + 2 * (i + 1)) _ (sum + t) : ℝ) / seriesUnit = S at *
    rw [Nat.cast_succ, add_one_mul]
    rw [abs_le] at hterm hrest ⊢
    constructor <;> linarith

end

lemma one_div_seriesUnit : 1 / (seriesUnit : ℝ) = (2⁻¹ ^ 96) ^ 2 := by norm_num [seriesUnit, seriesPlaces]

lemma exists_angle {q : ℝ} {n : ℕ} (hq : q ≤ 7) (hlow : n ≤ q * seriesUnit) (hup : q * seriesUnit < n + 1) :
    ∃ z : ℝ, 0 ≤ z ∧ z ≤ 7 ∧ z ^ 2 = ((n * n / seriesUnit : ℤ) : ℝ) / seriesUnit ∧ |n / seriesUnit - z| ≤ 2⁻¹ ^ 96 ∧
      |z - q| ≤ 2⁻¹ ^ 95 := by
  have hu := seriesUnit_pos
  have hone := one_div_seriesUnit
  have hcut := abs_ediv_sub_le (n * n) (by exact_mod_cast hu : 0 < seriesUnit)
  have hfloor : ((n * n / seriesUnit : ℤ) : ℝ) * seriesUnit ≤ n * n := by
    exact_mod_cast Int.ediv_mul_le ((n : ℤ) * n) (by exact_mod_cast hu.ne' : (seriesUnit : ℤ) ≠ 0)
  have hnonneg : 0 ≤ (n * n / seriesUnit : ℤ) := by positivity
  generalize (n * n / seriesUnit : ℤ) = square at *
  obtain ⟨α, hα⟩ : ∃ α : ℝ, α = n / seriesUnit := ⟨_, rfl⟩
  have hα₀ : 0 ≤ α := hα ▸ by positivity
  have hle : α ≤ q := hα ▸ (div_le_iff₀ hu).mpr hlow
  have hclose : q - α ≤ 1 / seriesUnit := by
    rw [hα, sub_le_iff_le_add, ← add_div, le_div_iff₀ hu]
    linarith
  have hsquare : (square : ℝ) / seriesUnit ≤ α ^ 2 ∧ α ^ 2 - square / seriesUnit ≤ 1 / seriesUnit := by
    have hα' : α ^ 2 = n * n / seriesUnit / seriesUnit := by
      rw [hα]
      ring
    rw [hα', ← sub_div]
    rw [← le_div_iff₀ hu] at hfloor
    push_cast at hcut
    exact ⟨by gcongr, by gcongr; linarith [(abs_le.mp hcut).1]⟩
  have hz : √((square : ℝ) / seriesUnit) ^ 2 = square / seriesUnit := Real.sq_sqrt (by positivity)
  have hz₀ := Real.sqrt_nonneg ((square : ℝ) / seriesUnit)
  generalize √((square : ℝ) / seriesUnit) = z at *
  rw [← hz, hone] at hsquare
  rw [hone] at hclose
  have hbelow : z ≤ α := le_of_sq_le_sq hsquare.1 hα₀
  have hnear : α - z ≤ 2⁻¹ ^ 96 := by
    refine le_of_sq_le_sq (le_trans ?_ hsquare.2) (by positivity)
    nlinarith
  refine ⟨z, hz₀, by linarith, hz, ?_, ?_⟩
  · rwa [← hα, abs_of_nonneg (by linarith)]
  · rw [abs_of_nonpos (by linarith)]
    norm_num at *
    linarith

lemma RoundsTo.real_near {v : ℚ} {e : ℤ} (h : RoundsTo x v) (hv : |v| < 2 ^ e) (he : -1021 ≤ e) (he' : e ≤ 1023) :
    |(value x : ℝ) - v| ≤ 2 ^ (e - 54) := by
  have herr : ((|value x - v| : ℚ) : ℝ) ≤ ((2 ^ (e - 54) : ℚ) : ℝ) := by exact_mod_cast h.abs_value_sub_le hv he he'
  push_cast at herr
  exact herr

lemma ofFixedPoint_near {s : ℤ} (h : |(s : ℝ) / seriesUnit| < 2) :
    (ofFixedPoint s).isFinite ∧ |(value (ofFixedPoint s) : ℝ) - s / seriesUnit| ≤ 2⁻¹ ^ 53 := by
  have hr := (rounds_nearest (s < 0) s.natAbs (-seriesPlaces)).roundsTo
    (mul_nonneg (Nat.cast_nonneg _) (two_zpow_pos _).le)
  have hs : withSign (s < 0) (s.natAbs * 2 ^ (-seriesPlaces : ℤ)) = s / seriesUnit := by
    have hnat : withSign (s < 0) (s.natAbs : ℚ) = s := by
      have h := withSign_abs (s : ℚ)
      rw [Nat.cast_natAbs, Int.cast_abs]
      simpa only [Int.cast_lt_zero] using h
    rw [← withSign_mul, hnat, zpow_neg, ← div_eq_mul_inv, zpow_natCast]
    norm_num [seriesUnit, seriesPlaces]
  rw [hs] at hr
  have hlt : |(s / seriesUnit : ℚ)| < 2 ^ (1 : ℤ) := by
    have hcast : |((s / seriesUnit : ℚ) : ℝ)| < (2 ^ (1 : ℤ) : ℚ) := by push_cast; simpa using h
    exact_mod_cast hcast
  have herr := hr.real_near hlt (by norm_num) (by norm_num)
  push_cast at herr
  exact ⟨hr.isFinite_of_lt hlt (by norm_num) (by norm_num), herr.trans (by norm_num)⟩

lemma exists_fixedPoint (d : Dyadic) : ∃ n : ℕ, fixedPoint d = (if d.negative then -(n : ℤ) else n) ∧
    (n : ℚ) ≤ d.mantissa * 2 ^ d.exponent * seriesUnit ∧ (d.mantissa * 2 ^ d.exponent * seriesUnit : ℚ) < n + 1 := by
  obtain ⟨hpos, hfrac⟩ := fraction_eq d seriesUnit
  rw [fixedPoint]
  generalize d.fraction seriesUnit = f at *
  rcases f with ⟨num, den⟩
  refine ⟨num / den, rfl, ?_, ?_⟩
  · rw [← hfrac]
    exact Nat.cast_div_le
  · rw [← hfrac, div_eq_add_mod num hpos]
    linarith [mod_div_lt_one num hpos]

lemma exists_angle_of_exact {d : Dyadic} (hx : exact x = .finite d) (h : |value x| ≤ 7) :
    ∃ z : ℝ, |z| ≤ 7 ∧ z ^ 2 = ((fixedPoint d * fixedPoint d / seriesUnit : ℤ) : ℝ) / seriesUnit ∧
      |fixedPoint d / seriesUnit - z| ≤ 2⁻¹ ^ 96 ∧ |z - value x| ≤ 2⁻¹ ^ 95 := by
  obtain ⟨n, hn, hlow, hup⟩ := exists_fixedPoint d
  have hv : value x = withSign d.negative (d.mantissa * 2 ^ d.exponent) := by rw [value, hx]
  have hq : (0 : ℚ) ≤ d.mantissa * 2 ^ d.exponent := mul_nonneg (Nat.cast_nonneg _) (two_zpow_pos _).le
  generalize (d.mantissa : ℚ) * 2 ^ d.exponent = q at *
  rw [hv, abs_withSign, abs_of_nonneg hq] at h
  obtain ⟨z, hz, hz', hsquare, hterm, hnear⟩ := exists_angle (q := q) (n := n) (by exact_mod_cast h)
    (by exact_mod_cast hlow) (by exact_mod_cast hup)
  rw [hn, hv]
  cases d.negative
  · refine ⟨z, by rwa [abs_of_nonneg hz], by simpa using hsquare, by simpa using hterm, by simpa [withSign] using hnear⟩
  · refine ⟨-z, by rwa [abs_neg, abs_of_nonneg hz], by simpa using hsquare, ?_, ?_⟩
    · rw [← abs_neg]
      push_cast
      convert hterm using 2
      simp
      ring
    · rw [← abs_neg]
      simpa [withSign, add_comm, sub_eq_add_neg] using hnear

lemma ofFixedPoint_powerSeries_near {f : ℝ → ℝ} {v : ℝ} (hz : |z| ≤ 7) (hsquare : z ^ 2 = square / seriesUnit)
    (hterm : |t / seriesUnit - seriesTerm z k 0| ≤ 2⁻¹ ^ 95) (hk : 1 ≤ errorBudget k)
    (hsum : |f z - ∑ i ∈ range 60, seriesTerm z k i| ≤ 2⁻¹ ^ 80) (hv : |f z - f v| ≤ 2⁻¹ ^ 95) (hone : |f v| ≤ 1) :
    (ofFixedPoint (powerSeries square 60 k t 0)).isFinite ∧
      |(value (ofFixedPoint (powerSeries square 60 k t 0)) : ℝ) - f v| ≤ 2⁻¹ ^ 52 := by
  have hε : 1 / (seriesUnit : ℝ) ≤ 2⁻¹ ^ 95 := by
    rw [one_div_seriesUnit]
    norm_num
  have hz49 : z ^ 2 ≤ 49 := by
    rw [← sq_abs]
    nlinarith [abs_nonneg z]
  have hrun := abs_powerSeries_sub_le hε hsquare hz49 60 (k := k) (i := 0) 0
    (hterm.trans (le_mul_of_one_le_left (by positivity) hk))
  simp only [mul_zero, add_zero, zero_add, Int.cast_zero, zero_div] at hrun
  generalize powerSeries square 60 k t 0 = S at *
  rw [abs_sub_comm] at hsum
  have hseries : |(S : ℝ) / seriesUnit - f z| ≤ 2⁻¹ ^ 79 := near_trans hrun hsum (by norm_num)
  have hS : |(S : ℝ) / seriesUnit - f v| ≤ 2⁻¹ ^ 78 := near_trans hseries hv (by norm_num)
  obtain ⟨hfinite, hnear⟩ := ofFixedPoint_near ((abs_le_of_near hS hone le_rfl).trans_lt (by norm_num))
  exact ⟨hfinite, near_trans hnear hS (by norm_num)⟩

/-- The cosine is that of the angle, to the last bit. -/
theorem cos_near (hx : x.isFinite) (h : |value x| ≤ 7) :
    (cos x).isFinite ∧ |(value (cos x) : ℝ) - Real.cos (value x)| ≤ 2⁻¹ ^ 52 := by
  obtain ⟨s, q, m, e, hx, rfl⟩ := isFinite_iff.mp hx
  obtain ⟨z, hz, hsquare, -, hnear⟩ := exists_angle_of_exact hx h
  rw [cos, hx]
  refine ofFixedPoint_powerSeries_near hz hsquare ?_ le_rfl (abs_cos_sub_sum_le hz)
    ((Real.abs_cos_sub_cos_le _ _).trans hnear) (Real.abs_cos_le_one _)
  have hone : ((seriesUnit : ℤ) : ℝ) / seriesUnit = 1 := div_self seriesUnit_pos.ne'
  rw [hone, seriesTerm]
  norm_num

theorem sin_near (hx : x.isFinite) (h : |value x| ≤ 7) :
    (sin x).isFinite ∧ |(value (sin x) : ℝ) - Real.sin (value x)| ≤ 2⁻¹ ^ 52 := by
  have hfinite := hx
  obtain ⟨s, q, m, e, hx, rfl⟩ := isFinite_iff.mp hx
  obtain ⟨z, hz, hsquare, hterm, hnear⟩ := exists_angle_of_exact hx h
  rw [sin, hx]
  dsimp only
  split
  · rename_i hzero
    refine ⟨hfinite, ?_⟩
    have hsmall : |(value x : ℝ)| ≤ 2⁻¹ ^ 94 := by
      rw [hzero, Int.cast_zero, zero_div, zero_sub, abs_neg] at hterm
      rw [abs_sub_comm] at hnear
      exact abs_le_of_near hnear hterm (by norm_num)
    calc |(value x : ℝ) - Real.sin (value x)| ≤ |(value x : ℝ)| + |Real.sin (value x)| := abs_sub _ _
      _ ≤ 2⁻¹ ^ 94 + 2⁻¹ ^ 94 := add_le_add hsmall (Real.abs_sin_le_abs.trans hsmall)
      _ ≤ 2⁻¹ ^ 52 := by norm_num
  · refine ofFixedPoint_powerSeries_near hz hsquare ?_ le_rfl (abs_sin_sub_sum_le hz)
      ((Real.abs_sin_sub_sin_le _ _).trans hnear) (Real.abs_sin_le_one _)
    rw [seriesTerm]
    norm_num at hterm ⊢
    linarith

end Toolpath.Number
