import Toolpath.Proofs.Scene.Centre
import Toolpath.Proofs.Scene.Labelling

/-!
The pixel of a point is the nearest one that 64 bits have, halves upwards. The half is added in doubles, and two kinds
of coordinates stray: the greatest double below one half, and odd whole numbers that have no double half way to the
next one.
-/

namespace Toolpath.Scene

open Program Number

variable {v x : Float} {q : ℚ} {j k : ℤ}

def HalfUp (k : ℤ) (q : ℚ) : Prop := (k : ℚ) - 1 / 2 ≤ q ∧ q < k + 1 / 2

lemma halfUp_iff : HalfUp k q ↔ k = round q := by
  rw [HalfUp, round_eq, eq_comm, Int.floor_eq_iff]
  constructor
  · rintro ⟨h₁, h₂⟩
    constructor <;> linarith
  · rintro ⟨h₁, h₂⟩
    constructor <;> linarith

/-- Coordinates that are rounded when the half is added, and so get to another whole number. -/
inductive Strays (q : ℚ) : Prop
  -- With a half added it is rounded to one.
  | belowHalf (eq : q = 1 / 2 - 2 ^ (-54 : ℤ))
  -- With a half added it is rounded to the even neighbour.
  | odd (j : ℤ) (eq : q = j) (odd : Odd j) (large : 2 ^ 52 < |j|)

/-- What is drawn at `k` along one axis: what has `k` as its nearest whole number, and at the ends of 64 bits also
what lies beyond. -/
structure DrawnAt (q : ℚ) (k : ℤ) : Prop where
  halfUp : -2 ^ 63 ≤ q → q < 2 ^ 63 → HalfUp k q
  low : q < -2 ^ 63 → k = -2 ^ 63
  high : 2 ^ 63 ≤ q → k = 2 ^ 63 - 1

lemma floor_add_half_below (hx : RoundsTo x (1 / 2 - 2 ^ (-54 : ℤ) + 1 / 2)) : ⌊value x⌋ = 1 := by
  have hpos : (0 : ℚ) < 1 / 2 - 2 ^ (-54 : ℤ) + 1 / 2 := by norm_num
  have hunit : unit (1 / 2 - 2 ^ (-54 : ℤ) + 1 / 2) = -53 := unit_eq (by norm_num) (by norm_num) (by norm_num)
  -- half way between the double below one and one, which is the even one of the two
  have hnear : IsNearest .toEven ((1 / 2 - 2 ^ (-54 : ℤ) + 1 / 2) / 2 ^ (-53 : ℤ)) (2 ^ 53) := by
    refine ⟨by norm_num, by norm_num, fun _ _ => ⟨2 ^ 52, by norm_num⟩, fun h => ?_⟩
    norm_num at h
  have hrounded : rounded (1 / 2 - 2 ^ (-54 : ℤ) + 1 / 2) = 1 := by
    rw [rounded, hunit, hnear.nearestTo_eq (by norm_num)]
    norm_num
  have hvalue := hx.abs_value
  rw [abs_of_nonneg (hx.value_nonneg hpos.le), abs_of_pos hpos, hrounded,
    min_eq_left (by exact_mod_cast pow_le_top (Nat.zero_le 1024))] at hvalue
  rw [hvalue, Int.floor_one]

lemma eq_of_near_half (hq : Representable |q|) (hlow : 1 / 2 - 2 ^ (-53 : ℤ) < q) (hup : q < 1 / 2) :
    q = 1 / 2 - 2 ^ (-54 : ℤ) := by
  have hpos : 0 < q := lt_trans (by norm_num) hlow
  rw [abs_of_pos hpos] at hq
  obtain ⟨n, rfl⟩ := hq.exists_eq_mul (e := -54) (le_trans (by norm_num) hlow.le)
  norm_num at hlow hup
  have h₁ : (2 ^ 53 : ℚ) < n + 2 := by linarith
  have h₂ : (n : ℚ) < 2 ^ 53 := by linarith
  have h₁' : 2 ^ 53 < n + 2 := by exact_mod_cast h₁
  have h₂' : n < 2 ^ 53 := by exact_mod_cast h₂
  obtain rfl : n = 2 ^ 53 - 1 := by omega
  norm_num

lemma floor_add_half_of_lt_half (hq : Representable |q|) (h : |q| < 1 / 2) (hne : q ≠ 1 / 2 - 2 ^ (-54 : ℤ))
    (hx : RoundsTo x (q + 1 / 2)) : ⌊value x⌋ = round q := by
  obtain ⟨hlow, hup⟩ := abs_lt.mp h
  have hfar : q + 1 / 2 ≤ (2 ^ 53 - 1 : ℕ) * 2 ^ (-53 : ℤ) := by
    have hle : q ≤ 1 / 2 - 2 ^ (-53 : ℤ) := not_lt.mp fun hlt => hne (eq_of_near_half hq hlt hup)
    norm_num at hle ⊢
    linarith
  have hrep : Representable ((2 ^ 53 - 1 : ℕ) * 2 ^ (-53 : ℤ)) := representable_of_le (by norm_num) (by norm_num)
  have hle := hx.abs_value_le hrep (by rwa [abs_of_pos (by linarith)])
  have hnonneg := hx.value_nonneg (by linarith)
  have hround : round q = 0 := by
    rw [round_eq, Int.floor_eq_iff, Int.cast_zero]
    constructor <;> linarith
  rw [abs_of_nonneg hnonneg] at hle
  rw [hround, Int.floor_eq_iff, Int.cast_zero]
  exact ⟨hnonneg, hle.trans_lt (by norm_num)⟩

namespace Pixel

section

variable (hv : v.isFinite)

include hv

lemma coordinate_eq_round (h : ¬ Strays (value v)) (hlow : -2 ^ 63 ≤ value v) (hup : value v < 2 ^ 63) :
    coordinate v = round (value v) := by
  have hrep := representable_abs_value hv
  have hsum := roundsTo_add_half hv
  rw [coordinate_eq hv]
  rcases lt_or_ge |value v| (2 ^ 52) with hsmall | hlarge
  · have hfloor : ⌊value (v + Float.ofScientific 5 true 1)⌋ = round (value v) := by
      rcases lt_or_ge |value v| (1 / 2) with hhalf | hhalf
      · exact floor_add_half_of_lt_half hrep hhalf (fun he => h (.belowHalf he)) hsum
      · exact floor_add_half_of_half_le hrep hhalf hsmall hsum
    have hround := abs_le.mp (abs_round_le hsmall)
    omega
  · obtain ⟨j, hj, heven, hle, hle'⟩ := even_floor_add_half hrep hlarge (abs_le.mpr ⟨hlow, hup.le⟩) hsum
    have hjeven : Even j := by
      by_contra hodd
      rw [Int.not_even_iff_odd] at hodd
      have hlarge' : 2 ^ 52 ≤ |j| := by
        rw [hj] at hlarge
        exact_mod_cast hlarge
      have hne : |j| ≠ 2 ^ 52 := by
        intro he
        rw [← Int.not_even_iff_odd, ← even_abs, he] at hodd
        exact hodd ⟨2 ^ 51, by norm_num⟩
      exact h (.odd j hj hodd (lt_of_le_of_ne hlarge' hne.symm))
    rw [hj] at hlow hup
    have hlow' : -2 ^ 63 ≤ j := by exact_mod_cast hlow
    have hup' : j < 2 ^ 63 := by exact_mod_cast hup
    rw [hj, round_intCast]
    rw [Int.even_iff] at heven hjeven
    omega

lemma coordinate_ne_round (h : Strays (value v)) : coordinate v ≠ round (value v) := by
  have hrep := representable_abs_value hv
  have hsum := roundsTo_add_half hv
  rw [coordinate_eq hv]
  cases h with
  | belowHalf eq =>
    rw [eq] at hsum
    have hround : round (1 / 2 - 2 ^ (-54 : ℤ) : ℚ) = 0 := by
      rw [round_eq, Int.floor_eq_iff]
      norm_num
    rw [floor_add_half_below hsum, eq, hround]
    norm_num
  | odd j eq odd large =>
    rw [eq] at hrep
    have hsmall : |j| < 2 ^ 53 := by
      by_contra hge
      exact Int.not_even_iff_odd.mpr odd (even_of_large hrep (not_lt.mp hge))
    have hlow : 2 ^ 52 ≤ |value v| := by
      rw [eq]
      exact_mod_cast large.le
    have hup : |value v| ≤ 2 ^ 63 := by
      rw [eq]
      exact_mod_cast hsmall.le.trans (by norm_num)
    obtain ⟨i, hi, heven, hle, hle'⟩ := even_floor_add_half (representable_abs_value hv) hlow hup hsum
    obtain rfl : i = j := by
      rw [eq] at hi
      exact_mod_cast hi.symm
    obtain ⟨h₁, h₂⟩ := abs_lt.mp hsmall
    rw [eq, round_intCast]
    rw [Int.even_iff] at heven
    rw [Int.odd_iff] at odd
    omega

theorem drawnAt_coordinate (h : ¬ Strays (value v)) : DrawnAt (value v) (coordinate v) where
  halfUp hlow hup := halfUp_iff.mpr (coordinate_eq_round hv h hlow hup)
  low := coordinate_of_low hv
  high := coordinate_of_high hv

theorem halfUp_coordinate_iff (hlow : -2 ^ 63 ≤ value v) (hup : value v < 2 ^ 63) :
    HalfUp (coordinate v) (value v) ↔ ¬ Strays (value v) := by
  rw [halfUp_iff]
  exact ⟨fun h hs => coordinate_ne_round hv hs h, fun h => coordinate_eq_round hv h hlow hup⟩

end

end Pixel

structure Point.LiesIn (p : Point) (k : Pixel) : Prop where
  x : ¬ Strays (value p.x) → DrawnAt (value p.x) k.x
  y : ¬ Strays (value p.y) → DrawnAt (value p.y) k.y

lemma liesIn_of_ofPoint? {p : Point} {k : Pixel} (hk : Pixel.ofPoint? p = some k) : p.LiesIn k := by
  rw [Pixel.ofPoint?] at hk
  split at hk
  · rename_i hp
    obtain ⟨hx, hy⟩ := Bool.and_eq_true_iff.mp hp
    cases hk
    exact ⟨Pixel.drawnAt_coordinate hx, Pixel.drawnAt_coordinate hy⟩
  · cases hk

lemma liesIn_key {t : Text} {f : Transform} {c : Cluster} (hc : c ∈ (project (trace t) f).clusters) {i : ℕ}
    (hi : i ∈ c.members) : ∃ d, (project (trace t) f).dots[i]? = some d ∧ d.screen.LiesIn c.key := by
  obtain ⟨d, hd, hk⟩ := (numbered_project t f).mem_nodesAt.mp ((Cluster.members_perm hc).mem_iff.mp hi)
  exact ⟨d, hd, liesIn_of_ofPoint? hk⟩

/-- Every finite point has a pixel, which is the nearest one along each axis on which it does not stray; and nodes of
one cluster lie in one pixel. -/
theorem nearest_pixel :
    (∀ p : Point, p.isFinite → ∃ k, Pixel.ofPoint? p = some k ∧ p.LiesIn k) ∧
      ∀ (t : Text) (f : Transform), ∀ c ∈ (project (trace t) f).clusters, ∀ i ∈ c.members, ∀ j ∈ c.members,
        ∃ d e, (project (trace t) f).dots[i]? = some d ∧ (project (trace t) f).dots[j]? = some e ∧
          ∃ k, d.screen.LiesIn k ∧ e.screen.LiesIn k := by
  constructor
  · intro p hp
    have hk : Pixel.ofPoint? p = some ⟨Pixel.coordinate p.x, Pixel.coordinate p.y⟩ := if_pos hp
    exact ⟨_, hk, liesIn_of_ofPoint? hk⟩
  · intro t f c hc i hi j hj
    obtain ⟨d, hd, hdk⟩ := liesIn_key hc hi
    obtain ⟨e, he, hek⟩ := liesIn_key hc hj
    exact ⟨d, e, hd, he, c.key, hdk, hek⟩

-- From 2 ^ 63 on every coordinate is drawn at the last pixel, and so two nodes that are far apart share a cluster.
theorem not_nearest_pixel :
    let p : Point := ⟨Float.ofNat (2 ^ 63), Float.ofNat 0⟩
    let f : Transform := ⟨Float.ofNat 1, Float.ofNat 0, Float.ofNat 0⟩
    Pixel.ofPoint? p = some ⟨2 ^ 63 - 1, 0⟩ ∧ ¬ HalfUp (2 ^ 63 - 1) (value p.x) ∧
      (project (trace "G1 X9223372036854775808\nG1 X18446744073709551616".toList) f).clusters.map (·.members) = [[0, 1]] := by
  intro p f
  have hx : Denotes p.x false ((2 ^ 52 : ℕ) * 2 ^ (11 : ℤ)) := ⟨2 ^ 52, 11, by decide +kernel, rfl⟩
  refine ⟨by decide +kernel, ?_, by decide +kernel⟩
  rw [hx.value_eq, HalfUp]
  norm_num [withSign]

theorem nearest_pixel_halves :
    let p : Point := ⟨Float.ofBits 0x4004000000000000, Float.ofBits 0xC004000000000000⟩
    let f : Transform := ⟨Float.ofNat 1, Float.ofNat 0, Float.ofNat 0⟩
    let t := "G1 X2.5 Y2.5\nG1 X3".toList
    let c : Cluster := ⟨⟨3, -2⟩, ⟨Float.ofNat 3, Float.ofInt (-2)⟩, [0, 1]⟩
    (p.isFinite ∧ Pixel.ofPoint? p = some ⟨3, -2⟩ ∧ ∃ k, Pixel.ofPoint? p = some k ∧ p.LiesIn k) ∧
      c ∈ (project (trace t) f).clusters ∧ 0 ∈ c.members ∧ 1 ∈ c.members ∧
        ∃ d e, (project (trace t) f).dots[0]? = some d ∧ (project (trace t) f).dots[1]? = some e ∧
          ∃ k, d.screen.LiesIn k ∧ e.screen.LiesIn k := by
  intro p f t c
  have hp : p.isFinite := by decide +kernel
  have hc : c ∈ (project (trace t) f).clusters := by decide +kernel
  exact ⟨⟨hp, by decide +kernel, nearest_pixel.1 p hp⟩, hc, by decide, by decide,
    nearest_pixel.2 t f c hc 0 (by decide) 1 (by decide)⟩

end Toolpath.Scene
