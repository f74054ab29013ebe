import Toolpath.Proofs.Number.Sum

/-!
Whole numbers and halves among the doubles: whole numbers as doubles, the floor of a double, and what adding a half
does to it.
-/

namespace Toolpath.Number

variable {x : Float} {v : ℚ}

def OnGrid (v : ℚ) : Prop := ∃ k : ℤ, v = k * 2 ^ (-45 : ℤ)

lemma representable_abs {k e : ℤ} (hk : |k| ≤ 2 ^ 53) (he : -1074 ≤ e) : Representable |(k : ℚ) * 2 ^ e| := by
  have habs : |(k : ℚ) * 2 ^ e| = k.natAbs * 2 ^ e := by
    rw [abs_mul, abs_of_pos (two_zpow_pos e), Nat.cast_natAbs, Int.cast_abs]
  rw [habs]
  refine representable_of_le ?_ he
  zify
  exact hk

lemma OnGrid.representable (hg : OnGrid v) (h : |v| ≤ 2 ^ 8) : Representable |v| := by
  obtain ⟨k, rfl⟩ := hg
  refine representable_abs ?_ (by norm_num)
  rw [abs_mul, abs_of_pos (two_zpow_pos _), ← le_div_iff₀ (two_zpow_pos _)] at h
  have hk : |(k : ℚ)| ≤ 2 ^ 53 := h.trans (by norm_num)
  exact_mod_cast hk

lemma OnGrid.sub_intCast (hg : OnGrid v) (k : ℤ) : OnGrid (v - k) := by
  obtain ⟨j, rfl⟩ := hg
  refine ⟨j - k * 2 ^ 45, ?_⟩
  push_cast
  norm_num
  ring

lemma OnGrid.abs (hg : OnGrid v) : OnGrid |v| := by
  obtain ⟨j, rfl⟩ := hg
  exact ⟨|j|, by rw [abs_mul, abs_of_pos (two_zpow_pos _), Int.cast_abs]⟩

lemma OnGrid.add_step_le {w : ℚ} (hv : OnGrid v) (hw : OnGrid w) (h : v < w) : v + 2 ^ (-45 : ℤ) ≤ w := by
  obtain ⟨j, rfl⟩ := hv
  obtain ⟨k, rfl⟩ := hw
  have hp := two_zpow_pos (-45)
  have hjk : (j : ℚ) + 1 ≤ k := by exact_mod_cast (by exact_mod_cast lt_of_mul_lt_mul_right h hp.le : j < k)
  calc (j : ℚ) * 2 ^ (-45 : ℤ) + 2 ^ (-45 : ℤ) = (j + 1) * 2 ^ (-45 : ℤ) := by ring
    _ ≤ k * 2 ^ (-45 : ℤ) := mul_le_mul_of_nonneg_right hjk hp.le

lemma OnGrid.add_step (hg : OnGrid v) : OnGrid (v + 2 ^ (-45 : ℤ)) := by
  obtain ⟨k, rfl⟩ := hg
  exact ⟨k + 1, by push_cast; ring⟩

lemma OnGrid.add_half (hg : OnGrid v) : OnGrid (v + 1 / 2) := by
  obtain ⟨k, rfl⟩ := hg
  refine ⟨k + 2 ^ 44, ?_⟩
  push_cast
  norm_num
  ring

lemma onGrid_of_large {x : Float} (hx : x.isFinite) (h : 2 ^ 7 ≤ |value x|) : OnGrid (value x) := by
  obtain ⟨n, hn⟩ := (representable_abs_value hx).exists_eq_mul (e := -45) (by norm_num at *; exact h)
  rcases abs_choice (value x) with ha | ha
  · exact ⟨n, by rw [← ha, hn]; norm_cast⟩
  · refine ⟨-n, ?_⟩
    push_cast
    rw [neg_mul, ← hn, ha, neg_neg]

lemma onGrid_add {x c : Float} {k : ℤ} (hc : Denotes c false k) (hk : 2 ^ 8 ≤ k) (h : (x + c).isFinite) :
    OnGrid (value (x + c)) := by
  have hx := isFinite_of_add h
  have hr := roundsTo_add hx hc.isFinite
  rw [hc.value_eq, withSign, if_neg Bool.false_ne_true] at hr
  rcases lt_or_ge |value x + k| (2 ^ 7) with hsmall | hlarge
  · have hgrid : OnGrid (value x + k) := by
      have hk' : (2 : ℚ) ^ 8 ≤ k := by exact_mod_cast hk
      have hbig : 2 ^ 7 ≤ |value x| := by
        obtain ⟨h₁, h₂⟩ := abs_lt.mp hsmall
        rw [abs_of_neg (by linarith)]
        linarith
      have hsub := (onGrid_of_large hx hbig).sub_intCast (-k)
      rwa [Int.cast_neg, sub_neg_eq_add] at hsub
    rw [hr.value_of_representable (hgrid.representable (by linarith)) (lt_top_of_le (by linarith)).le]
    exact hgrid
  · have hz := representable_zpow (by norm_num : -1074 ≤ (7 : ℤ))
    exact onGrid_of_large h (hr.le_abs_value (by exact_mod_cast hz) (pow_le_top (by norm_num)) hlarge)

lemma floor_add_half_of_crossing {i : ℕ} (hi : i < 52) (hbelow : v < 2 ^ i) (habove : 2 ^ i ≤ v + 1 / 2)
    (hx : RoundsTo x (v + 1 / 2)) : ⌊value x⌋ = round v := by
  have hrep : Representable (2 ^ i : ℚ) := by
    have hz := representable_zpow (by omega : -1074 ≤ (i : ℤ))
    rwa [zpow_natCast] at hz
  have hrep' : Representable (2 ^ i + 1 / 2 : ℚ) := by
    have hi' : 2 ^ (i + 1) ≤ 2 ^ 52 := Nat.pow_le_pow_right (by norm_num) hi
    have hz := representable_of_le (by omega : 2 ^ (i + 1) + 1 ≤ 2 ^ 53) (by norm_num : -1074 ≤ (-1 : ℤ))
    have hsame : ((2 ^ (i + 1) + 1 : ℕ) : ℚ) * 2 ^ (-1 : ℤ) = 2 ^ i + 1 / 2 := by
      push_cast
      rw [pow_succ]
      norm_num
      ring
    rwa [hsame] at hz
  have hnonneg : 0 ≤ v + 1 / 2 := (pow_nonneg (by norm_num) i).trans habove
  have hlow := hx.le_abs_value hrep (pow_le_top (by omega)) (by rwa [abs_of_nonneg hnonneg])
  have hup := hx.abs_value_le hrep' (by rw [abs_of_nonneg hnonneg]; linarith)
  rw [abs_of_nonneg (hx.value_nonneg hnonneg)] at hlow hup
  have hfloor : ⌊value x⌋ = 2 ^ i := by
    rw [Int.floor_eq_iff]
    push_cast
    constructor <;> linarith
  rw [hfloor, round_eq, eq_comm, Int.floor_eq_iff]
  push_cast
  constructor <;> linarith

lemma exists_full_half (hv : Representable |v|) (hlow : 1 / 2 ≤ |v|) (h : |v| < 2 ^ 52) :
    ∃ (n j : ℕ) (e : ℤ), Full n e ∧ |v| = n * 2 ^ e ∧ (1 / 2 : ℚ) = 2 ^ j * 2 ^ e ∧ e + j = -1 ∧ j ≤ 52 := by
  have hlow : (2 : ℚ) ^ ((-53 : ℤ) + 52) ≤ |v| := by norm_num at *; exact hlow
  obtain ⟨n, e, hfull, he, hn⟩ := hv.exists_full hlow (by norm_num)
  have he' : e < 0 := by
    by_contra hge
    have hone : (1 : ℚ) ≤ 2 ^ e := one_le_zpow₀ (by norm_num) (by omega)
    have hbound := hfull.bounds.1
    rw [hn] at h
    linarith
  obtain ⟨j, hj⟩ := Int.eq_ofNat_of_zero_le (by omega : 0 ≤ -1 - e)
  refine ⟨n, j, e, hfull, hn, ?_, by omega, by omega⟩
  rw [mul_comm, ← zpow_add_nat, show e + j = -1 by omega]
  norm_num

lemma floor_of_exact (hr : Representable |v + 1 / 2|) (h : |v| < 2 ^ 52) (hx : RoundsTo x (v + 1 / 2)) :
    ⌊value x⌋ = round v := by
  have hsum : |v + 1 / 2| ≤ |v| + 1 / 2 := (abs_add_le v _).trans (by norm_num)
  have hlt : |v + 1 / 2| ≤ top := by linarith [pow_le_top (by norm_num : 53 ≤ 1024)]
  rw [hx.value_of_representable hr hlt, round_eq]

lemma floor_add_half_of_half_le (hv : Representable |v|) (hlow : 1 / 2 ≤ |v|) (h : |v| < 2 ^ 52)
    (hx : RoundsTo x (v + 1 / 2)) : ⌊value x⌋ = round v := by
  have hexact : Representable |v + 1 / 2| → ⌊value x⌋ = round v := fun hr => floor_of_exact hr h hx
  obtain ⟨n, j, e, hfull, hn, hhalf, hj, hj'⟩ := exists_full_half hv hlow h
  have hp := two_zpow_pos e
  have hj₀ : (0 : ℤ) < 2 ^ j := by positivity
  have hj₁ : (2 : ℤ) ^ j ≤ 2 ^ 52 := pow_le_pow_right₀ (by norm_num) hj'
  have hlt : (n : ℤ) < 2 ^ 53 := by exact_mod_cast hfull.lt
  rcases lt_or_ge v 0 with hneg | hpos
  · have heq : v + 1 / 2 = ((2 ^ j - n : ℤ) : ℚ) * 2 ^ e := by
      rw [abs_of_neg hneg] at hn
      rw [hhalf]
      push_cast
      linarith
    exact hexact (heq ▸ representable_abs (abs_le.mpr ⟨by linarith, by linarith⟩) (by omega))
  rw [abs_of_nonneg hpos] at hn h
  have heq : v + 1 / 2 = ((n + 2 ^ j : ℤ) : ℚ) * 2 ^ e := by
    rw [hhalf, hn]
    push_cast
    ring
  rcases le_or_gt ((n : ℤ) + 2 ^ j) (2 ^ 53) with hle | hcross
  · exact hexact (heq ▸ representable_abs (abs_le.mpr ⟨by linarith, hle⟩) (by omega))
  have hj₂ : 0 < j := by
    by_contra hz
    obtain rfl : j = 0 := by omega
    omega
  obtain ⟨i, hi⟩ := Int.eq_ofNat_of_zero_le (by omega : 0 ≤ 53 + e)
  have hedge : (2 ^ i : ℚ) = 2 ^ 53 * 2 ^ e := by
    rw [mul_comm, ← zpow_natCast, ← zpow_add_nat]
    congr 1
    push_cast
    omega
  have hbelow : v < 2 ^ i := by
    rw [hn, hedge]
    exact mul_lt_mul_of_pos_right (by exact_mod_cast hfull.lt) hp
  have habove : (2 : ℚ) ^ i ≤ v + 1 / 2 := by
    rw [heq, hedge]
    exact mul_le_mul_of_nonneg_right (by exact_mod_cast hcross.le) hp.le
  exact floor_add_half_of_crossing (by omega) hbelow habove hx

lemma floor_add_half (hv : Representable |v|) (hg : OnGrid v) (h : |v| < 2 ^ 52) (hx : RoundsTo x (v + 1 / 2)) :
    ⌊value x⌋ = round v := by
  rcases lt_or_ge |v| (1 / 2) with hsmall | hlow
  · have hsum : |v + 1 / 2| ≤ |v| + 1 / 2 := (abs_add_le v _).trans (by norm_num)
    exact floor_of_exact (hg.add_half.representable (by linarith)) h hx
  · exact floor_add_half_of_half_le hv hlow h hx

lemma even_floor_withSign {r : ℕ} (s : Bool) (h : Even r) : Even ⌊withSign s (r : ℚ)⌋ := by
  cases s
  · simpa [withSign] using h
  · have hfloor : ⌊-(r : ℚ)⌋ = -(r : ℤ) := by exact_mod_cast Int.floor_intCast (-(r : ℤ))
    simpa [withSign, hfloor] using h

lemma even_floor_rounded (s : Bool) {q : ℚ} {k : ℕ} (h : 2 ^ 52 ≤ q) (hk : q = k + 1 / 2) :
    Even ⌊withSign s (rounded q)⌋ := by
  have hpos : 0 < q := by linarith
  have hunit := le_unit_of_le hpos (e := 52) (by exact_mod_cast h)
  obtain ⟨n, -, hn, hr⟩ := exists_rounded_eq hpos.le
  obtain ⟨u, hu⟩ := Int.eq_ofNat_of_zero_le (by omega : 0 ≤ unit q)
  rw [hu, zpow_natCast] at hn hr
  have hcast : rounded q = (n * 2 ^ u : ℕ) := by
    rw [hr]
    push_cast
    ring
  rw [hcast]
  apply even_floor_withSign
  rcases u.eq_zero_or_pos with rfl | hu₀
  · -- a half lies between two whole numbers, and the even one is taken
    rw [pow_zero, div_one] at hn
    have hlow := hn.lower
    have hup := hn.upper
    rw [hk] at hlow hup
    have hnk : n = k ∨ n = k + 1 := by
      have h₁ : (n : ℚ) ≤ k + 1 := by linarith
      have h₂ : (k : ℚ) ≤ n := by linarith
      have h₁' : n ≤ k + 1 := by exact_mod_cast h₁
      have h₂' : k ≤ n := by exact_mod_cast h₂
      omega
    rw [pow_zero, mul_one]
    rcases hnk with rfl | rfl
    · exact (hn.even_of_upper hk).2
    · refine hn.even_of_lower ?_ rfl
      rw [hk]
      push_cast
      ring
  · exact (Nat.even_pow.mpr ⟨even_two, hu₀.ne'⟩).mul_left n

lemma floor_add_half_of_negative_end (hx : RoundsTo x (-2 ^ 52 + 1 / 2)) : ⌊value x⌋ = -2 ^ 52 := by
  have habs : |(-2 ^ 52 + 1 / 2 : ℚ)| = (2 ^ 53 - 1 : ℕ) * 2 ^ (-1 : ℤ) := by
    rw [abs_of_nonpos (by norm_num)]
    norm_num
  rw [hx.value_of_representable (habs ▸ representable_of_le (by norm_num) (by norm_num)) (lt_top_of_le ?_).le]
  · rw [Int.floor_eq_iff]
    norm_num
  · rw [habs]
    norm_num

lemma even_floor_of_large {j : ℤ} (hx : RoundsTo x (j + 1 / 2)) (h : 2 ^ 52 ≤ |(j : ℚ) + 1 / 2|)
    (hle : rounded |(j : ℚ) + 1 / 2| ≤ top) : Even ⌊value x⌋ := by
  rw [hx.value_eq, min_eq_left hle]
  rcases lt_or_ge j 0 with hneg | hnonneg
  · refine even_floor_rounded _ (k := (-j - 1).toNat) h ?_
    have hcast : (((-j - 1).toNat : ℕ) : ℚ) = -j - 1 := by exact_mod_cast Int.toNat_of_nonneg (by omega : 0 ≤ -j - 1)
    have hle : (j : ℚ) ≤ -1 := by exact_mod_cast (by omega : j ≤ -1)
    rw [hcast, abs_of_nonpos (by linarith)]
    ring
  · refine even_floor_rounded _ (k := j.toNat) h ?_
    have hcast : ((j.toNat : ℕ) : ℚ) = j := by exact_mod_cast Int.toNat_of_nonneg hnonneg
    have hle : (0 : ℚ) ≤ j := by exact_mod_cast hnonneg
    rw [hcast, abs_of_nonneg (by linarith)]

lemma even_of_large {j : ℤ} (hj : Representable |(j : ℚ)|) (h : 2 ^ 53 ≤ |j|) : Even j := by
  obtain ⟨n, hn⟩ := hj.exists_eq_mul (e := 1) (by norm_num; exact_mod_cast h)
  rw [zpow_one] at hn
  have hn' : |j| = n * 2 := by exact_mod_cast hn
  rw [← even_abs, hn']
  exact even_two.mul_left _

lemma exists_intCast_eq (hv : Representable |v|) (h : 2 ^ 52 ≤ |v|) : ∃ j : ℤ, v = j := by
  obtain ⟨n, hn⟩ := hv.exists_eq_mul (e := 0) (by norm_num at *; exact h)
  rw [zpow_zero, mul_one] at hn
  rcases abs_choice v with ha | ha
  · exact ⟨n, by rw [← ha, hn]; norm_cast⟩
  · exact ⟨-n, by rw [← neg_neg v, ← ha, hn]; norm_cast⟩

lemma even_floor_add_half (hv : Representable |v|) (h : 2 ^ 52 ≤ |v|) (h' : |v| ≤ 2 ^ 63) (hx : RoundsTo x (v + 1 / 2)) :
    ∃ j : ℤ, v = j ∧ Even ⌊value x⌋ ∧ j ≤ ⌊value x⌋ ∧ ⌊value x⌋ ≤ j + 1 := by
  obtain ⟨j, rfl⟩ := exists_intCast_eq hv h
  have hlow : |(j : ℚ)| - 1 / 2 ≤ |(j : ℚ) + 1 / 2| := by
    have := abs_sub_abs_le_abs_sub (j : ℚ) (-(1 / 2))
    norm_num at *
    linarith
  have hup : |(j : ℚ) + 1 / 2| ≤ |(j : ℚ)| + 1 / 2 := (abs_add_le (j : ℚ) _).trans (by norm_num)
  have hle : rounded |(j : ℚ) + 1 / 2| ≤ top := by
    have hz := rounded_le (abs_nonneg ((j : ℚ) + 1 / 2)) (representable_zpow (by norm_num : -1074 ≤ (64 : ℤ)))
      (by norm_num; linarith)
    exact hz.trans (by exact_mod_cast pow_le_top (by norm_num : 64 ≤ 1024))
  have hdist : |value x - (j + 1 / 2)| ≤ 1 / 2 := by
    rw [hx.abs_value_sub hle]
    exact (abs_rounded_sub_le (abs_nonneg _) hv).trans (abs_le.mpr ⟨by linarith, by linarith⟩)
  obtain ⟨hdist₁, hdist₂⟩ := abs_le.mp hdist
  refine ⟨j, rfl, ?_, ?_, ?_⟩
  · rcases le_or_gt (2 ^ 52) |(j : ℚ) + 1 / 2| with hlarge | hsmall
    · exact even_floor_of_large hx hlarge hle
    · -- only at the negative end
      obtain ⟨h₁, h₂⟩ := abs_lt.mp hsmall
      have hneg : (-2 ^ 52 - 1 : ℚ) < j ∧ (j : ℚ) < 2 ^ 52 := ⟨by linarith, by linarith⟩
      have hneg' : -2 ^ 52 - 1 < j ∧ j < 2 ^ 52 := by exact_mod_cast hneg
      have hj : 2 ^ 52 ≤ |j| := by exact_mod_cast h
      obtain rfl : j = -2 ^ 52 := by
        rcases abs_choice j with ha | ha <;> omega
      push_cast at hx
      rw [floor_add_half_of_negative_end hx]
      exact ⟨-2 ^ 51, by norm_num⟩
  · rw [Int.le_floor]
    linarith
  · rw [← Int.lt_add_one_iff, Int.floor_lt]
    push_cast
    linarith

lemma denotes_half : Denotes (Float.ofScientific 5 true 1) false (1 / 2) :=
  ⟨2 ^ 52, -53, by decide +kernel, by norm_num⟩

lemma denotes_ofNat {n : ℕ} (h : n < 2 ^ 53) : Denotes (Float.ofNat n) false n := by
  rcases n.eq_zero_or_pos with rfl | hpos
  · rw [Nat.cast_zero]
    exact denotes_ofNat_zero
  · exact (rounds_whole hpos).denotes_natCast h

lemma value_ofNat {n : ℕ} (h : n < 2 ^ 53) : value (Float.ofNat n) = n := by
  rw [(denotes_ofNat h).value_eq, withSign, if_neg Bool.false_ne_true]

lemma roundsTo_ofNat (n : ℕ) : RoundsTo (Float.ofNat n) n := by
  rcases n.eq_zero_or_pos with rfl | hpos
  · exact (denotes_ofNat (n := 0) (by norm_num)).roundsTo
  · exact (rounds_whole hpos).roundsTo (Nat.cast_nonneg n)

lemma RoundsTo.neg (h : RoundsTo x v) : RoundsTo (-x) (-v) := by
  obtain ⟨s, h, hs⟩ := h
  refine ⟨!s, ?_, ?_⟩
  · rw [abs_neg]
    exact h.neg
  · rw [abs_neg, ← hs]
    cases s <;> simp [withSign]

lemma roundsTo_ofInt (k : ℤ) : RoundsTo (Float.ofInt k) k := by
  cases k with
  | ofNat n => exact roundsTo_ofNat n
  | negSucc n =>
    have hr := (roundsTo_ofNat (n + 1)).neg
    rw [Int.cast_negSucc]
    exact hr

lemma value_ofInt {k : ℤ} (h : Representable |(k : ℚ)|) (hk : |k| ≤ 2 ^ 63) : value (Float.ofInt k) = k := by
  refine (roundsTo_ofInt k).value_of_representable h (le_trans ?_ (pow_le_top (by norm_num : 63 ≤ 1024)))
  exact_mod_cast hk

lemma value_ofInt_max : value (Float.ofInt (2 ^ 63 - 1)) = 2 ^ 63 := by
  have hr := roundsTo_ofInt (2 ^ 63 - 1)
  have hq : |((2 ^ 63 - 1 : ℤ) : ℚ)| = 2 ^ 63 - 1 := by norm_num
  have hunit : unit (2 ^ 63 - 1) = 10 := unit_eq (by norm_num) (by norm_num) (by norm_num)
  have hrounded : rounded (2 ^ 63 - 1) = (2 ^ 53 : ℕ) * 2 ^ (10 : ℤ) :=
    rounded_eq_of_abs_lt (by norm_num) hunit (by norm_num)
  have hvalue := hr.abs_value
  rw [abs_of_nonneg (hr.value_nonneg (by norm_num)), hq, hrounded, min_eq_left] at hvalue
  · rw [hvalue]
    norm_num
  · have htop := pow_le_top (by norm_num : 63 ≤ 1024)
    norm_num at *
    exact htop

lemma floor_eq (d : Dyadic) : d.floor = ⌊withSign d.negative (d.mantissa * 2 ^ d.exponent)⌋ := by
  obtain ⟨hpos, hfrac⟩ := fraction_eq d 1
  rw [Nat.cast_one, mul_one] at hfrac
  rw [Dyadic.floor, ← hfrac]
  generalize d.fraction 1 = f at *
  rcases f with ⟨num, den⟩
  dsimp only
  cases d.negative
  · exact (Rat.floor_intCast_div_natCast num den).symm
  · rw [withSign, if_pos rfl, if_pos rfl, ← neg_div]
    have h := Rat.floor_intCast_div_natCast (-num) den
    push_cast at h
    exact h.symm

end Toolpath.Number
