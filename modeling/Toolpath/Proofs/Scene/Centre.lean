import Toolpath.Proofs.Number.Whole
import Toolpath.Scene.Cluster

/-!
The centre of the pixel that a coordinate is drawn at.
-/

namespace Toolpath.Scene.Pixel

open Number

variable {v : Float}

lemma coordinate_eq (hv : v.isFinite) :
    coordinate v = max (-2 ^ 63) (min (2 ^ 63 - 1) ⌊value (v + Float.ofScientific 5 true 1)⌋) := by
  have hne := (roundsTo_add hv denotes_half.isFinite).ne_nan
  have htop : (2 : ℚ) ^ 63 ≤ top := pow_le_top (by norm_num)
  rw [coordinate, value]
  cases hx : exact (v + Float.ofScientific 5 true 1) with
  | nan => exact absurd hx hne
  | finite d =>
    dsimp only
    rw [floor_eq]
    rfl
  | infinite s =>
    cases s
    · have hlow : (2 : ℤ) ^ 63 ≤ ⌊withSign false top⌋ := by
        rw [Int.le_floor]
        exact_mod_cast htop
      dsimp only
      generalize ⌊withSign false top⌋ = k at *
      omega
    · have hup : ⌊withSign true top⌋ ≤ -2 ^ 63 := by
        have hfloor := (Int.floor_le (withSign true top)).trans (neg_le_neg htop)
        exact_mod_cast hfloor
      dsimp only
      generalize ⌊withSign true top⌋ = k at *
      omega

lemma abs_round_le {q : ℚ} (h : |q| < 2 ^ 52) : |round q| ≤ 2 ^ 52 := by
  have hnear := abs_le.mp (abs_sub_round q)
  obtain ⟨h₁, h₂⟩ := abs_lt.mp h
  rw [abs_le]
  constructor
  · have hlow : (-2 ^ 52 - 1 : ℚ) < round q := by linarith
    have hlow' : -2 ^ 52 - 1 < round q := by exact_mod_cast hlow
    omega
  · have hup : (round q : ℚ) < 2 ^ 52 + 1 := by linarith
    have hup' : round q < 2 ^ 52 + 1 := by exact_mod_cast hup
    omega

lemma abs_sub_even_cases {j c k : ℤ} (hj : 2 ^ 52 ≤ |j|) (heven : Even c) (hlow : j ≤ c) (hup : c ≤ j + 1)
    (hk : |k| ≤ 2 ^ 52 ∨ Even k) : |j - k| = |j - c| ∨ |j - c| + 1 ≤ |j - k| := by
  obtain ⟨a, rfl⟩ := heven
  rcases (by omega : j = a + a ∨ j + 1 = a + a) with he | he
  · rw [he, sub_self, abs_zero]
    rcases eq_or_ne (a + a - k) 0 with hz | hz
    · exact .inl (by rw [hz, abs_zero])
    · exact .inr (by have := Int.one_le_abs hz; omega)
  · have hjk : j - k ≠ 0 := by
      rintro hz
      obtain rfl : j = k := by omega
      rcases hk with hk | ⟨b, hb⟩
      · rcases abs_choice j with ha | ha <;> omega
      · omega
    have hone := Int.one_le_abs hjk
    have hc : |j - (a + a)| = 1 := by rw [← he, sub_add_cancel_left, abs_neg, abs_one]
    omega

def centre (v : Float) : ℚ := value (Float.ofInt (coordinate v))

section

variable (hv : v.isFinite)

include hv

lemma roundsTo_add_half : RoundsTo (v + Float.ofScientific 5 true 1) (value v + 1 / 2) := by
  have hsum := roundsTo_add hv denotes_half.isFinite
  rwa [denotes_half.value_eq, withSign, if_neg Bool.false_ne_true] at hsum

lemma centre_of_small (hg : OnGrid (value v)) (h : |value v| < 2 ^ 52) : centre v = round (value v) := by
  have hsum := roundsTo_add_half hv
  have hround := abs_round_le h
  rw [centre, coordinate_eq hv, floor_add_half (representable_abs_value hv) hg h hsum]
  generalize round (value v) = k at *
  obtain ⟨h₁, h₂⟩ := abs_le.mp hround
  rw [min_eq_right (by omega), max_eq_right (by omega)]
  refine value_ofInt ?_ (by omega)
  have hrep := representable_abs (k := k) (e := 0) (by omega) (by norm_num)
  simpa using hrep

lemma centre_of_large (h : 2 ^ 52 ≤ |value v|) (h' : |value v| ≤ 2 ^ 63) :
    ∃ j k : ℤ, value v = j ∧ centre v = k ∧ Even k ∧ j ≤ k ∧ k ≤ j + 1 := by
  have hsum := roundsTo_add_half hv
  have hrep := representable_abs_value hv
  obtain ⟨j, hj, heven, hlow, hup⟩ := even_floor_add_half hrep h h' hsum
  rw [centre, coordinate_eq hv]
  generalize ⌊value (v + Float.ofScientific 5 true 1)⌋ = k at *
  refine ⟨j, k, hj, ?_, heven, hlow, hup⟩
  rw [hj] at hrep h h'
  have h₁ : 2 ^ 52 ≤ |j| := by exact_mod_cast h
  have h₂ : |j| ≤ 2 ^ 63 := by exact_mod_cast h'
  obtain ⟨h₃, h₄⟩ := abs_le.mp h₂
  rcases lt_or_ge |j| (2 ^ 53) with hsmall | hbig
  · obtain ⟨h₅, h₆⟩ := abs_lt.mp hsmall
    rw [min_eq_right (by omega), max_eq_right (by omega)]
    refine value_ofInt ?_ (abs_le.mpr ⟨by omega, by omega⟩)
    have hrep := representable_abs (k := k) (e := 0) (abs_le.mpr ⟨by omega, by omega⟩) (by norm_num)
    simpa using hrep
  · have hjeven := even_of_large hrep hbig
    obtain rfl : k = j := by
      obtain ⟨a, rfl⟩ := heven
      obtain ⟨b, rfl⟩ := hjeven
      omega
    rw [max_eq_right (by omega)]
    rcases h₄.eq_or_lt with rfl | hlt
    · rw [min_eq_left (by norm_num), value_ofInt_max]
      norm_num
    · rw [min_eq_right (by omega)]
      exact value_ofInt hrep h₂

lemma add_le_of_beyond (h : 2 ^ 63 < |value v|) : 2 ^ 63 + 2 ^ 11 ≤ |value v| := by
  obtain ⟨n, hn⟩ := (representable_abs_value hv).exists_eq_mul (e := 11) (by norm_num at *; exact h.le)
  have hunit : (2 : ℚ) ^ (11 : ℤ) = 2048 := by norm_num
  rw [hn, hunit] at h ⊢
  have hlt : (2 ^ 52 : ℚ) < n := by linarith
  have hle : (2 ^ 52 + 1 : ℚ) ≤ n := by exact_mod_cast (by exact_mod_cast hlt : 2 ^ 52 < n)
  linarith

lemma le_abs_value_add_half (h : 2 ^ 63 ≤ |value v + 1 / 2|) :
    2 ^ 63 ≤ |value (v + Float.ofScientific 5 true 1)| := by
  have hz := representable_zpow (by norm_num : -1074 ≤ (63 : ℤ))
  exact (roundsTo_add_half hv).le_abs_value (z := 2 ^ 63) (by exact_mod_cast hz) (pow_le_top (by norm_num)) h

lemma coordinate_of_low (h : value v < -2 ^ 63) : coordinate v = -2 ^ 63 := by
  have hgap := add_le_of_beyond hv (by rw [abs_of_neg (by linarith)]; linarith)
  rw [abs_of_neg (by linarith)] at hgap
  have hlow := le_abs_value_add_half hv (by rw [abs_of_neg (by linarith)]; linarith)
  rw [abs_of_nonpos ((roundsTo_add_half hv).value_nonpos (by linarith))] at hlow
  have hfloor : ⌊value (v + Float.ofScientific 5 true 1)⌋ ≤ -2 ^ 63 := by
    have hle := (Int.floor_le (value (v + Float.ofScientific 5 true 1))).trans (by linarith : _ ≤ (-2 ^ 63 : ℚ))
    exact_mod_cast hle
  rw [coordinate_eq hv, max_eq_left ((min_le_right _ _).trans hfloor)]

lemma coordinate_of_high (h : 2 ^ 63 ≤ value v) : coordinate v = 2 ^ 63 - 1 := by
  have hlow := le_abs_value_add_half hv (by rw [abs_of_pos (by linarith)]; linarith)
  rw [abs_of_nonneg ((roundsTo_add_half hv).value_nonneg (by linarith))] at hlow
  have hfloor : 2 ^ 63 ≤ ⌊value (v + Float.ofScientific 5 true 1)⌋ := by
    rw [Int.le_floor]
    exact_mod_cast hlow
  rw [coordinate_eq hv, min_eq_left (by omega), max_eq_right (by norm_num)]

lemma centre_of_beyond (h : 2 ^ 63 < |value v|) : centre v = if value v < 0 then -2 ^ 63 else 2 ^ 63 := by
  rw [centre]
  split
  · rename_i hneg
    rw [abs_of_neg hneg] at h
    have hr : Representable |((-2 ^ 63 : ℤ) : ℚ)| := by
      have hz := representable_zpow (by norm_num : -1074 ≤ (63 : ℤ))
      push_cast
      rw [abs_neg, abs_of_pos (by norm_num)]
      exact_mod_cast hz
    rw [coordinate_of_low hv (by linarith), value_ofInt hr (by norm_num)]
    norm_num
  · rename_i hnonneg
    rw [abs_of_nonneg (not_lt.mp hnonneg)] at h
    rw [coordinate_of_high hv h.le, value_ofInt_max]

lemma exists_centre (hg : OnGrid (value v)) : ∃ k : ℤ, centre v = k ∧ (|k| ≤ 2 ^ 52 ∨ Even k) ∧ |k| ≤ 2 ^ 63 := by
  rcases lt_or_ge |value v| (2 ^ 52) with hsmall | hlarge
  · have hround := abs_round_le hsmall
    exact ⟨_, centre_of_small hv hg hsmall, .inl hround, by omega⟩
  rcases le_or_gt |value v| (2 ^ 63) with hin | hbeyond
  · obtain ⟨j, k, hj, hk, heven, hlow, hup⟩ := centre_of_large hv hlarge hin
    refine ⟨k, hk, .inr heven, ?_⟩
    rw [hj] at hin
    have hj' : |j| ≤ 2 ^ 63 := by exact_mod_cast hin
    obtain ⟨a, rfl⟩ := heven
    rw [abs_le] at *
    omega
  · refine ⟨if value v < 0 then -2 ^ 63 else 2 ^ 63, ?_, .inr ?_, ?_⟩
    · rw [centre_of_beyond hv hbeyond]
      split <;> norm_num
    · split <;> decide
    · split <;> norm_num

lemma abs_sub_centre_le (hg : OnGrid (value v)) (h : |value v| ≤ 2 ^ 63) : |value v - centre v| ≤ 1 := by
  rcases lt_or_ge |value v| (2 ^ 52) with hsmall | hlarge
  · rw [centre_of_small hv hg hsmall]
    exact (abs_sub_round _).trans (by norm_num)
  · obtain ⟨j, k, hj, hk, -, hlow, hup⟩ := centre_of_large hv hlarge h
    have hlow' : (j : ℚ) ≤ k := by exact_mod_cast hlow
    have hup' : (k : ℚ) ≤ j + 1 := by exact_mod_cast hup
    rw [hj, hk, abs_le]
    constructor <;> linarith

lemma abs_sub_centre_of_beyond (h : 2 ^ 63 < |value v|) : |value v - centre v| = |value v| - 2 ^ 63 := by
  rw [centre_of_beyond hv h]
  split
  · rename_i hneg
    rw [abs_of_neg hneg] at h ⊢
    rw [abs_of_neg (by linarith)]
    ring
  · rename_i hnonneg
    rw [abs_of_nonneg (not_lt.mp hnonneg)] at h ⊢
    rw [abs_of_pos (by linarith)]

lemma le_abs_sub_centre (h : 2 ^ 63 < |value v|) : 2 ^ 11 ≤ |value v - centre v| := by
  rw [abs_sub_centre_of_beyond hv h]
  linarith [add_le_of_beyond hv h]

lemma abs_sub_centre_cases (hg : OnGrid (value v)) (h : |value v| ≤ 2 ^ 63) {k : ℤ} (hk : |k| ≤ 2 ^ 52 ∨ Even k) :
    |value v - k| = |value v - centre v| ∨
      |value v - centre v| + 2 ^ (-45 : ℤ) ≤ |value v - k| ∧ 1 / 2 ≤ |value v - k| := by
  rcases lt_or_ge |value v| (2 ^ 52) with hsmall | hlarge
  · rw [centre_of_small hv hg hsmall]
    rcases (round_le (value v) k).eq_or_lt with he | hlt
    · exact .inl he.symm
    · refine .inr ⟨(hg.sub_intCast _).abs.add_step_le (hg.sub_intCast _).abs hlt, ?_⟩
      have hne : round (value v) ≠ k := by
        rintro rfl
        exact hlt.ne rfl
      have hone : (1 : ℚ) ≤ |(round (value v) : ℚ) - k| := by exact_mod_cast Int.one_le_abs (sub_ne_zero.mpr hne)
      have htri := abs_sub_le (round (value v) : ℚ) (value v) k
      have hhalf := abs_sub_round (value v)
      rw [abs_sub_comm] at hhalf
      linarith
  · obtain ⟨j, c, hj, hc, heven, hlow, hup⟩ := centre_of_large hv hlarge h
    rw [hj] at hlarge
    have hlarge' : 2 ^ 52 ≤ |j| := by exact_mod_cast hlarge
    rw [hj, hc]
    rcases abs_sub_even_cases hlarge' heven hlow hup hk with he | hle
    · exact .inl (by exact_mod_cast he)
    · have hle' : |(j : ℚ) - c| + 1 ≤ |(j : ℚ) - k| := by exact_mod_cast hle
      have hstep : (2 : ℚ) ^ (-45 : ℤ) ≤ 1 := by norm_num
      have hnonneg := abs_nonneg ((j : ℚ) - c)
      exact .inr ⟨by linarith, by linarith⟩

end

end Toolpath.Scene.Pixel
