import Toolpath.Proofs.Number.Circle
import Toolpath.Proofs.Number.Whole
import Toolpath.Scene.Pointer

/-!
Where the sub-nodes of a ring of the default radius stand, and how far they are from one another.
-/

namespace Toolpath.Scene

open Number

lemma denotes_turn : Denotes turn false (7074237752028440 * 2 ^ (-50 : ℤ)) :=
  ⟨7074237752028440, -50, by decide +kernel, by norm_num⟩

lemma value_turn : value turn = 7074237752028440 * 2 ^ (-50 : ℤ) := by
  rw [denotes_turn.value_eq, withSign, if_neg Bool.false_ne_true]

lemma abs_turn_sub_le : |(value turn : ℝ) - 2 * Real.pi| ≤ 2⁻¹ ^ 40 := by
  have hlow := Real.pi_gt_d20
  have hup := Real.pi_lt_d20
  rw [value_turn, abs_le]
  norm_num at *
  constructor <;> linarith

def ringAngle (n i : ℕ) : Float := Float.ofNat i * (turn / Float.ofNat n)

lemma step_near {n : ℕ} (hpos : 0 < n) (hn : n < 2 ^ 53) : (turn / Float.ofNat n).isFinite ∧
    |value (turn / Float.ofNat n) - value turn / n| ≤ value turn / n * 2 ^ (-53 : ℤ) := by
  have hstep := roundsTo_div denotes_turn.isFinite (denotes_ofNat hn).isFinite
    (by rw [value_ofNat hn]; exact_mod_cast hpos.ne')
  rw [value_ofNat hn, value_turn] at hstep
  rw [value_turn]
  have hpos' : (1 : ℚ) ≤ n := by exact_mod_cast hpos
  have hlt : (n : ℚ) < 2 ^ 53 := by exact_mod_cast hn
  have hlow : (2 : ℚ) ^ (-51 : ℤ) ≤ 7074237752028440 * 2 ^ (-50 : ℤ) / n := by
    rw [le_div_iff₀ (by linarith)]
    norm_num
    linarith
  have hup : 7074237752028440 * 2 ^ (-50 : ℤ) / (n : ℚ) < 2 ^ (3 : ℤ) := by
    rw [div_lt_iff₀ (by linarith)]
    norm_num
    linarith
  generalize 7074237752028440 * 2 ^ (-50 : ℤ) / (n : ℚ) = v at *
  have habs : |v| = v := abs_of_pos ((two_zpow_pos _).trans_le hlow)
  have herr := hstep.abs_value_sub_le_mul
    (by rw [habs]; exact (zpow_le_zpow_right₀ (by norm_num) (by norm_num)).trans hlow)
    (by rw [habs]; exact hup.trans (zpow_lt_zpow_right₀ (by norm_num) (by norm_num)))
  rw [habs] at herr
  exact ⟨hstep.isFinite_of_lt (by rwa [habs]) (by norm_num) (by norm_num), herr⟩

section

variable {n i : ℕ} (hi : i < n) (hn : n < 2 ^ 53)

include hi hn

lemma ringAngle_near : (ringAngle n i).isFinite ∧ |value (ringAngle n i) - i / n * value turn| ≤ 2⁻¹ ^ 49 := by
  obtain ⟨hfinite, herr⟩ := step_near ((Nat.zero_le i).trans_lt hi) hn
  have hangle := roundsTo_mul (denotes_ofNat (hi.trans hn)).isFinite hfinite
  rw [value_ofNat (hi.trans hn)] at hangle
  have hratio : 0 ≤ (i : ℚ) / n ∧ (i : ℚ) / n ≤ 1 := by
    have hpos : (0 : ℚ) < n := by exact_mod_cast (Nat.zero_le i).trans_lt hi
    exact ⟨by positivity, (div_le_one hpos).mpr (by exact_mod_cast hi.le)⟩
  have hturn : 0 ≤ (i : ℚ) / n * value turn ∧ (i : ℚ) / n * value turn ≤ 7 := by
    have hturn : 0 ≤ value turn ∧ value turn ≤ 7 := by
      rw [value_turn]
      norm_num
    exact ⟨mul_nonneg hratio.1 hturn.1, (mul_le_of_le_one_left hturn.1 hratio.2).trans hturn.2⟩
  generalize value (turn / Float.ofNat n) = step at *
  -- the error of one step, once for each of the `i` steps
  have hsteps : |i * step - i / n * value turn| ≤ 7 * 2 ^ (-53 : ℤ) := by
    have hscale : (i : ℚ) * step - i / n * value turn = i * (step - value turn / n) := by ring
    rw [hscale, abs_mul, abs_of_nonneg (Nat.cast_nonneg i)]
    calc (i : ℚ) * |step - value turn / n| ≤ i * (value turn / n * 2 ^ (-53 : ℤ)) :=
          mul_le_mul_of_nonneg_left herr (Nat.cast_nonneg i)
      _ = i / n * value turn * 2 ^ (-53 : ℤ) := by ring
      _ ≤ 7 * 2 ^ (-53 : ℤ) := mul_le_mul_of_nonneg_right hturn.2 (two_zpow_pos _).le
  generalize (i : ℚ) * step = a at *
  have hbound : |a| < 2 ^ (3 : ℤ) :=
    (abs_le_of_near hsteps ((abs_of_nonneg hturn.1).trans_le hturn.2) le_rfl).trans_lt (by norm_num)
  have herr' := hangle.abs_value_sub_le hbound (by norm_num) (by norm_num)
  exact ⟨hangle.isFinite_of_lt hbound (by norm_num) (by norm_num), near_trans herr' hsteps (by norm_num)⟩

lemma ringAngle_near_real : (ringAngle n i).isFinite ∧ |value (ringAngle n i)| ≤ 7 ∧
    |(value (ringAngle n i) : ℝ) - 2 * Real.pi * i / n| ≤ 2⁻¹ ^ 39 := by
  obtain ⟨hfinite, hnear⟩ := ringAngle_near hi hn
  have hcast : |((value (ringAngle n i) - i / n * value turn : ℚ) : ℝ)| ≤ ((2⁻¹ ^ 49 : ℚ) : ℝ) := by exact_mod_cast hnear
  push_cast at hcast
  have hturn := abs_turn_sub_le
  have hpos : (0 : ℝ) < n := by exact_mod_cast (Nat.zero_le i).trans_lt hi
  have hratio : 0 ≤ (i : ℝ) / n ∧ (i : ℝ) / n ≤ 1 :=
    ⟨by positivity, (div_le_one hpos).mpr (by exact_mod_cast hi.le)⟩
  have hreal : |(value (ringAngle n i) : ℝ) - 2 * Real.pi * i / n| ≤ 2⁻¹ ^ 39 := by
    have hsplit : (i : ℝ) / n * value turn - 2 * Real.pi * i / n = i / n * (value turn - 2 * Real.pi) := by ring
    have hpart : |(i : ℝ) / n * value turn - 2 * Real.pi * i / n| ≤ 2⁻¹ ^ 40 := by
      rw [hsplit, abs_mul, abs_of_nonneg hratio.1]
      exact (mul_le_of_le_one_left (abs_nonneg _) hratio.2).trans hturn
    exact near_trans hcast hpart (by norm_num)
  refine ⟨hfinite, ?_, hreal⟩
  have hexact : |2 * Real.pi * i / n| ≤ 2 * 3.15 := by
    have hpi := Real.pi_pos
    rw [mul_div_assoc, abs_of_nonneg (by positivity)]
    exact (mul_le_of_le_one_right (by positivity) hratio.2).trans (by linarith [Real.pi_lt_d2])
  have hseven : |(value (ringAngle n i) : ℝ)| ≤ 7 := abs_le_of_near hreal hexact (by norm_num)
  exact_mod_cast hseven

end

structure Point.HasRoom (p : Point) : Prop where
  finite : p.isFinite
  x : |value p.x| ≤ 2 ^ 40
  y : |value p.y| ≤ 2 ^ 40

lemma isFinite_ofInt {k : ℤ} (hk : |k| ≤ 2 ^ 40) : (Float.ofInt k).isFinite ∧ |value (Float.ofInt k)| ≤ 2 ^ 40 := by
  have hle : |(k : ℚ)| ≤ 2 ^ 40 := by exact_mod_cast hk
  have hz : Representable (2 ^ 40 : ℚ) := by exact_mod_cast representable_zpow (by norm_num : -1074 ≤ (40 : ℤ))
  have hr := roundsTo_ofInt k
  exact ⟨hr.isFinite_of_le hz (lt_top_of_le (by norm_num)) hle, hr.abs_value_le hz hle⟩

lemma hasRoom_center {k : Pixel} (hx : |k.x| ≤ 2 ^ 40) (hy : |k.y| ≤ 2 ^ 40) : k.center.HasRoom := by
  obtain ⟨hfx, hlex⟩ := isFinite_ofInt hx
  obtain ⟨hfy, hley⟩ := isFinite_ofInt hy
  exact ⟨Bool.and_eq_true_iff.mpr ⟨hfx, hfy⟩, hlex, hley⟩

lemma denotes_ring : Denotes Radii.default.ring false (30 : ℕ) := denotes_ofNat (by norm_num)

lemma coordinate_near {c u : Float} {w : ℝ} (hc : c.isFinite) (hle : |value c| ≤ 2 ^ 40) (hu : u.isFinite)
    (h : |(value u : ℝ) - w| ≤ 2⁻¹ ^ 38) (hw : |w| ≤ 1) : (c + u * Radii.default.ring).isFinite ∧
      |(value (c + u * Radii.default.ring) : ℝ) - (value c + 30 * w)| ≤ 2⁻¹ ^ 12 := by
  have hring : value Radii.default.ring = (30 : ℕ) := value_ofNat (by norm_num)
  have hunit : |value u| ≤ 2 := by
    have hreal : |(value u : ℝ)| ≤ 2 := abs_le_of_near h hw (by norm_num)
    exact_mod_cast hreal
  have hmul := roundsTo_mul hu denotes_ring.isFinite
  rw [hring, Nat.cast_ofNat] at hmul
  have hlt : |value u * 30| < 2 ^ (6 : ℤ) := by
    rw [abs_mul]
    norm_num
    linarith
  have hfinite := hmul.isFinite_of_lt hlt (by norm_num) (by norm_num)
  have herr := hmul.real_near hlt (by norm_num) (by norm_num)
  have hsmall : |value (u * Radii.default.ring)| ≤ 2 ^ 6 := by
    have hz := representable_zpow (by norm_num : -1074 ≤ (6 : ℤ))
    exact_mod_cast hmul.abs_value_le hz hlt.le
  have hadd := roundsTo_add hc hfinite
  have hlt' : |value c + value (u * Radii.default.ring)| < 2 ^ (41 : ℤ) := by
    refine (abs_add_le _ _).trans_lt ((add_le_add hle hsmall).trans_lt (by norm_num))
  have herr' := hadd.real_near hlt' (by norm_num) (by norm_num)
  have hscaled : |(value u * 30 : ℝ) - 30 * w| ≤ 30 * 2⁻¹ ^ 38 := by
    rw [mul_comm, ← mul_sub, abs_mul, abs_of_pos (by norm_num)]
    exact mul_le_mul_of_nonneg_left h (by norm_num)
  push_cast at herr herr'
  have hpart := near_trans herr hscaled le_rfl
  rw [← add_sub_add_left_eq_sub _ _ (value c : ℝ)] at hpart
  exact ⟨hadd.isFinite_of_lt hlt' (by norm_num) (by norm_num), near_trans herr' hpart (by norm_num)⟩

structure OnRing (c p : Point) (θ : ℝ) : Prop where
  finite : p.isFinite
  x : |(value p.x : ℝ) - (value c.x + 30 * Real.cos θ)| ≤ 2⁻¹ ^ 12
  y : |(value p.y : ℝ) - (value c.y + 30 * Real.sin θ)| ≤ 2⁻¹ ^ 12

lemma ring_getElem? {c : Cluster} {i : ℕ} {s : SubNode} {radius : Float} (hs : (ring c radius)[i]? = some s) :
    i < c.members.length ∧ c.members[i]? = some s.node ∧
      s.position = ⟨c.center.x + Number.cos (ringAngle c.members.length i) * radius,
        c.center.y + Number.sin (ringAngle c.members.length i) * radius⟩ := by
  rw [ring] at hs
  dsimp only at hs
  rw [List.getElem?_map, Option.map_eq_some_iff] at hs
  obtain ⟨⟨n, k⟩, hn, rfl⟩ := hs
  have hi : i < c.members.length := by
    have hlt := (List.getElem?_eq_some_iff.mp hn).1
    rwa [List.length_zipIdx] at hlt
  rw [List.getElem?_zipIdx, List.getElem?_eq_getElem hi, Option.map_some, Nat.zero_add, Option.some.injEq] at hn
  cases hn
  exact ⟨hi, List.getElem?_eq_getElem hi, rfl⟩

lemma length_ring (c : Cluster) (radius : Float) : (ring c radius).length = c.members.length := by simp [ring]

lemma ring_inj {c : Cluster} {i j : ℕ} {s s' : SubNode} {radius : Float} (hnodup : c.members.Nodup)
    (hs : (ring c radius)[i]? = some s) (hs' : (ring c radius)[j]? = some s') (h : s'.node = s.node) : j = i := by
  obtain ⟨-, hi, -⟩ := ring_getElem? hs
  obtain ⟨hj, hj', -⟩ := ring_getElem? hs'
  exact (List.getElem?_inj hj hnodup).mp (by rw [hj', hi, h])

lemma onRing {c : Cluster} {i : ℕ} {s : SubNode} (hc : c.center.HasRoom) (hn : c.members.length < 2 ^ 53)
    (hs : (ring c Radii.default.ring)[i]? = some s) :
    OnRing c.center s.position (2 * Real.pi * i / c.members.length) := by
  obtain ⟨hi, -, he⟩ := ring_getElem? hs
  obtain ⟨hfinite, hseven, hnear⟩ := ringAngle_near_real hi hn
  obtain ⟨hcos, hcosNear⟩ := cos_near hfinite hseven
  obtain ⟨hsin, hsinNear⟩ := sin_near hfinite hseven
  obtain ⟨hcx, hcy⟩ := Bool.and_eq_true_iff.mp hc.finite
  have hcos' := (abs_sub_le _ _ _).trans (add_le_add hcosNear ((Real.abs_cos_sub_cos_le _ _).trans hnear))
  have hsin' := (abs_sub_le _ _ _).trans (add_le_add hsinNear ((Real.abs_sin_sub_sin_le _ _).trans hnear))
  obtain ⟨hx, hxNear⟩ := coordinate_near hcx hc.x hcos (hcos'.trans (by norm_num)) (Real.abs_cos_le_one _)
  obtain ⟨hy, hyNear⟩ := coordinate_near hcy hc.y hsin (hsin'.trans (by norm_num)) (Real.abs_sin_le_one _)
  rw [he]
  exact ⟨Bool.and_eq_true_iff.mpr ⟨hx, hy⟩, hxNear, hyNear⟩

def NearSquare (p q : Point) (d : ℝ) : Prop :=
  ∃ s t a b, Denotes (p.x - q.x) s a ∧ Denotes (p.y - q.y) t b ∧ |(a : ℝ) ^ 2 + b ^ 2 - d| ≤ 1 / 4

lemma denotes_sub_near {x y : Float} {u : ℝ} (hx : x.isFinite) (hy : y.isFinite)
    (h : |(value x : ℝ) - value y - u| ≤ 2⁻¹ ^ 11) (hu : |u| ≤ 60) :
    ∃ s q, Denotes (x - y) s q ∧ |(q : ℝ) ^ 2 - u ^ 2| ≤ 1 / 8 := by
  have hr := roundsTo_sub hx hy
  have hlt : |value x - value y| < 2 ^ (6 : ℤ) := by
    have hreal : |(value x : ℝ) - value y| < 64 := (abs_le_of_near h hu le_rfl).trans_lt (by norm_num)
    norm_num
    exact_mod_cast hreal
  obtain ⟨s, hd⟩ := exists_denotes (hr.isFinite_of_lt hlt (by norm_num) (by norm_num))
  have herr := hr.real_near hlt (by norm_num) (by norm_num)
  refine ⟨s, _, hd, ?_⟩
  push_cast at herr ⊢
  rw [sq_abs, sq_sub_sq, abs_mul]
  generalize (value (x - y) : ℝ) = v at *
  have hdiff : |v - u| ≤ 2⁻¹ ^ 10 := near_trans herr h (by norm_num)
  have hsum : |v + u| ≤ 121 := (abs_add_le v u).trans
    ((add_le_add (abs_le_of_near hdiff hu le_rfl) hu).trans (by norm_num))
  calc |v + u| * |v - u| ≤ 121 * 2⁻¹ ^ 10 := mul_le_mul hsum hdiff (abs_nonneg _) (by norm_num)
    _ ≤ 1 / 8 := by norm_num

lemma nearSquare_of_near {p q : Point} {u w : ℝ} (hp : p.isFinite) (hq : q.isFinite)
    (hx : |(value p.x : ℝ) - value q.x - u| ≤ 2⁻¹ ^ 11) (hy : |(value p.y : ℝ) - value q.y - w| ≤ 2⁻¹ ^ 11)
    (hu : |u| ≤ 60) (hw : |w| ≤ 60) : NearSquare p q (u ^ 2 + w ^ 2) := by
  obtain ⟨hpx, hpy⟩ := Bool.and_eq_true_iff.mp hp
  obtain ⟨hqx, hqy⟩ := Bool.and_eq_true_iff.mp hq
  obtain ⟨s, a, ha, hau⟩ := denotes_sub_near hpx hqx hx hu
  obtain ⟨t, b, hb, hbw⟩ := denotes_sub_near hpy hqy hy hw
  refine ⟨s, t, a, b, ha, hb, ?_⟩
  rw [add_sub_add_comm]
  exact (abs_add_le _ _).trans ((add_le_add hau hbw).trans (by norm_num))

namespace NearSquare

variable {p q : Point} {d : ℝ} {reach : Float} {n : ℕ}

lemma distance_le (h : NearSquare p q d) (hreach : Denotes reach false n) (hn : n ≤ 2 ^ 20) (hd : d + 1 ≤ n ^ 2) :
    p.distance q ≤ reach := by
  obtain ⟨s, t, a, b, ha, hb, hnear⟩ := h
  have hle : value (hypot (p.x - q.x) (p.y - q.y)) ≤ n := by
    refine hypot_le ha hb (representable_natCast (by omega)) ?_
    have hup := (abs_le.mp hnear).2
    have hsmall : (n : ℝ) ^ 2 ≤ 2 ^ 40 := by exact_mod_cast (Nat.pow_le_pow_left hn 2)
    rw [← Rat.cast_le (K := ℝ)]
    push_cast
    linarith
  rw [Point.distance, le_iff (ne_nan_hypot ha hb) (ne_nan_of_isFinite hreach.isFinite), hreach.value_eq]
  exact hle

lemma lt_distance (h : NearSquare p q d) (hreach : Denotes reach false n) (hn : n ≤ 2 ^ 20) (hd : n ^ 2 + n / 2 + 1 ≤ d) :
    reach < p.distance q := by
  obtain ⟨s, t, a, b, ha, hb, hnear⟩ := h
  have hn' : (n : ℚ) ≤ 2 ^ 20 := by exact_mod_cast hn
  have hle : ((8 * n + 1 : ℕ) : ℚ) * 2 ^ (-3 : ℤ) ≤ value (hypot (p.x - q.x) (p.y - q.y)) := by
    refine le_hypot ha hb (representable_of_le (by omega) (by norm_num)) (lt_top_of_le ?_).le ?_
    · have heighth : (2 : ℚ) ^ (-3 : ℤ) = 1 / 8 := by norm_num
      rw [heighth]
      push_cast
      linarith
    · have hlow := (abs_le.mp hnear).1
      have hsmall : (n : ℝ) ^ 2 ≤ 2 ^ 40 := by exact_mod_cast (Nat.pow_le_pow_left hn 2)
      have hnonneg : (0 : ℝ) ≤ n := Nat.cast_nonneg n
      have heighth : ((2 : ℝ) ^ (-3 : ℤ)) = 1 / 8 := by norm_num
      rw [← Rat.cast_le (K := ℝ)]
      push_cast
      rw [heighth]
      linarith
  rw [Point.distance, lt_iff (ne_nan_of_isFinite hreach.isFinite) (ne_nan_hypot ha hb), hreach.value_eq]
  refine lt_of_lt_of_le ?_ hle
  push_cast
  norm_num [withSign]
  linarith

end NearSquare

namespace OnRing

variable {c p q : Point} {θ φ : ℝ}

lemma nearSquare (hp : OnRing c p θ) (hq : OnRing c q φ) : NearSquare p q (1800 * (1 - Real.cos (θ - φ))) := by
  have hcos : ∀ θ, -1 ≤ Real.cos θ ∧ Real.cos θ ≤ 1 := fun θ => abs_le.mp (Real.abs_cos_le_one θ)
  have hsin : ∀ θ, -1 ≤ Real.sin θ ∧ Real.sin θ ≤ 1 := fun θ => abs_le.mp (Real.abs_sin_le_one θ)
  have h := nearSquare_of_near hp.finite hq.finite (u := 30 * Real.cos θ - 30 * Real.cos φ)
    (w := 30 * Real.sin θ - 30 * Real.sin φ) ?_ ?_ ?_ ?_
  · convert h using 1
    rw [Real.cos_sub]
    nlinarith [Real.sin_sq_add_cos_sq θ, Real.sin_sq_add_cos_sq φ]
  · exact near_sub hp.x hq.x (by norm_num)
  · exact near_sub hp.y hq.y (by norm_num)
  · rw [abs_le]
    constructor <;> linarith [hcos θ, hcos φ]
  · rw [abs_le]
    constructor <;> linarith [hsin θ, hsin φ]

lemma nearSquare_center (hc : c.isFinite) (hp : OnRing c p θ) : NearSquare p c 900 := by
  have h := nearSquare_of_near hp.finite hc (u := 30 * Real.cos θ) (w := 30 * Real.sin θ) ?_ ?_ ?_ ?_
  · convert h using 1
    nlinarith [Real.sin_sq_add_cos_sq θ]
  · have hx := hp.x
    rw [← sub_sub] at hx
    exact hx.trans (by norm_num)
  · have hy := hp.y
    rw [← sub_sub] at hy
    exact hy.trans (by norm_num)
  · rw [abs_mul]
    norm_num
    linarith [Real.abs_cos_le_one θ]
  · rw [abs_mul]
    norm_num
    linarith [Real.abs_sin_le_one θ]

end OnRing

lemma many_are_near {n : ℕ} (hn : 16 ≤ n) : 1800 * (1 - Real.cos (2 * Real.pi / n)) + 1 ≤ 12 ^ 2 := by
  have hn' : (16 : ℝ) ≤ n := by exact_mod_cast hn
  have hle : 2 * Real.pi / n ≤ 0.395 := by
    rw [div_le_iff₀ (by linarith)]
    linarith [Real.pi_lt_d4]
  have hcos := Real.one_sub_sq_div_two_le_cos (x := 2 * Real.pi / n)
  have hsq : (2 * Real.pi / n) ^ 2 ≤ 0.395 ^ 2 := pow_le_pow_left₀ (by positivity) hle 2
  norm_num at hsq ⊢
  linarith

lemma cos_fifteenth_le : Real.cos (2 * Real.pi / 15) ≤ 0.914 := by
  have hlow := Real.pi_gt_d4
  have hup := Real.pi_lt_d4
  have habs : |2 * Real.pi / 15| = 2 * Real.pi / 15 := abs_of_pos (by positivity)
  have hbound := (abs_le.mp (Real.cos_bound (habs.trans_le (by linarith)))).2
  rw [habs] at hbound
  have hsq : (0.4188 : ℝ) ^ 2 ≤ (2 * Real.pi / 15) ^ 2 := pow_le_pow_left₀ (by norm_num) (by linarith) 2
  have hfour : (2 * Real.pi / 15) ^ 4 ≤ 0.419 ^ 4 := pow_le_pow_left₀ (by positivity) (by linarith) 4
  norm_num at hsq hfour ⊢
  linarith

lemma cos_le_of_few {n d : ℕ} (hn : n ≤ 15) (hd : 0 < d) (hhalf : 2 * d ≤ n) :
    Real.cos (2 * Real.pi * d / n) ≤ Real.cos (2 * Real.pi / 15) := by
  have hpi := Real.pi_pos
  have hn₀ : (0 : ℝ) < n := by exact_mod_cast (by omega : 0 < n)
  have hn' : (n : ℝ) ≤ 15 := by exact_mod_cast hn
  have hd' : (1 : ℝ) ≤ d := by exact_mod_cast hd
  have hhalf' : 2 * (d : ℝ) ≤ n := by exact_mod_cast hhalf
  refine Real.cos_le_cos_of_nonneg_of_le_pi (by positivity) ?_ ?_
  · rw [div_le_iff₀ hn₀]
    nlinarith
  · rw [div_le_div_iff₀ (by norm_num) hn₀]
    nlinarith

lemma few_are_apart {n d : ℕ} (hn : n ≤ 15) (hd : 0 < d) (hdn : d < n) :
    12 ^ 2 + 12 / 2 + 1 ≤ 1800 * (1 - Real.cos (2 * Real.pi * d / n)) := by
  have hcos : Real.cos (2 * Real.pi * d / n) ≤ Real.cos (2 * Real.pi / 15) := by
    rcases le_total (2 * d) n with hhalf | hhalf
    · exact cos_le_of_few hn hd hhalf
    · have hn₀ : (n : ℝ) ≠ 0 := by exact_mod_cast (by omega : n ≠ 0)
      have hback : 2 * Real.pi * d / n = 2 * Real.pi - 2 * Real.pi * (n - d : ℕ) / n := by
        rw [Nat.cast_sub hdn.le]
        field_simp
        ring
      rw [hback, Real.cos_two_pi_sub]
      exact cos_le_of_few hn (by omega) (by omega)
  linarith [cos_fifteenth_le]

section

variable {c : Cluster} {i j : ℕ} {s s' : SubNode} (hc : c.center.HasRoom) (hs : (ring c Radii.default.ring)[i]? = some s)

include hc hs

lemma center_lt_distance (hn : c.members.length < 2 ^ 53) : Radii.default.center < s.position.distance c.center := by
  have hreach : Denotes Radii.default.center false (8 : ℕ) := denotes_ofNat (by norm_num)
  exact ((onRing hc hn hs).nearSquare_center hc.finite).lt_distance hreach (by norm_num) (by norm_num)

variable (hs' : (ring c Radii.default.ring)[j]? = some s')

include hs'

lemma distance_le_of_many (hn : c.members.length < 2 ^ 53) (hmany : 16 ≤ c.members.length) (hij : i = j + 1) :
    s.position.distance s'.position ≤ Radii.default.subNode := by
  have hreach : Denotes Radii.default.subNode false (12 : ℕ) := denotes_ofNat (by norm_num)
  refine ((onRing hc hn hs).nearSquare (onRing hc hn hs')).distance_le hreach (by norm_num) ?_
  have hangle : 2 * Real.pi * i / c.members.length - 2 * Real.pi * j / c.members.length =
      2 * Real.pi / c.members.length := by
    rw [hij]
    push_cast
    ring
  rw [hangle]
  exact_mod_cast many_are_near hmany

lemma not_distance_le_of_few (hfew : c.members.length ≤ 15) (hij : i ≠ j) :
    ¬ s.position.distance s'.position ≤ Radii.default.subNode := by
  have hreach : Denotes Radii.default.subNode false (12 : ℕ) := denotes_ofNat (by norm_num)
  have hn : c.members.length < 2 ^ 53 := by omega
  obtain ⟨hi, -⟩ := ring_getElem? hs
  obtain ⟨hj, -⟩ := ring_getElem? hs'
  refine not_le_of_lt (((onRing hc hn hs).nearSquare (onRing hc hn hs')).lt_distance hreach (by norm_num) ?_)
  have hangle : ∀ {k l : ℕ}, l < k → 2 * Real.pi * k / c.members.length - 2 * Real.pi * l / c.members.length =
      2 * Real.pi * (k - l : ℕ) / c.members.length := fun h => by
    rw [Nat.cast_sub h.le]
    ring
  rcases lt_or_gt_of_ne hij with h | h
  · rw [← Real.cos_neg, neg_sub, hangle h]
    exact_mod_cast few_are_apart hfew (by omega) (by omega)
  · rw [hangle h]
    exact_mod_cast few_are_apart hfew (by omega) (by omega)

end

end Toolpath.Scene
