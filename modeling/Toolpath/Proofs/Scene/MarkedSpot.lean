import Toolpath.Proofs.Number.Length
import Toolpath.Proofs.Scene.Centre
import Toolpath.Proofs.Scene.FirstNearest
import Toolpath.Proofs.Scene.Hits
import Toolpath.Proofs.Scene.Labelling

/-!
A marker is hit where it is drawn. Its own centre is the nearest one, so that only an earlier centre that is exactly
as near, or a spot beyond the pixels of 64 bits, keeps it from being hit.
-/

namespace Toolpath.Scene

open Program Number

namespace Point

def squareTo (p q : Point) : ℚ := (value p.x - value q.x) ^ 2 + (value p.y - value q.y) ^ 2

structure OnScreen (p : Point) : Prop where
  finite_x : p.x.isFinite
  finite_y : p.y.isFinite
  grid_x : OnGrid (value p.x)
  grid_y : OnGrid (value p.y)

structure InRange (p : Point) : Prop where
  x : |value p.x| ≤ 2 ^ 63
  y : |value p.y| ≤ 2 ^ 63

def pixel (p : Point) : Pixel := ⟨Pixel.coordinate p.x, Pixel.coordinate p.y⟩

end Point

section

variable {v w : Float} (hv : v.isFinite)

include hv

lemma isFinite_ofInt_coordinate : (Float.ofInt (Pixel.coordinate v)).isFinite := by
  have hbound : |Pixel.coordinate v| ≤ 2 ^ 63 := by
    rw [Pixel.coordinate_eq hv, abs_le]
    omega
  have hz := representable_zpow (by norm_num : -1074 ≤ (63 : ℤ))
  exact (roundsTo_ofInt _).isFinite_of_le (z := 2 ^ 63) (by exact_mod_cast hz) (lt_top_of_le (by norm_num))
    (by exact_mod_cast hbound)

lemma denotes_sub_centre (hw : w.isFinite) (hg : OnGrid (value v)) (hg' : OnGrid (value w)) (h : |value v| ≤ 2 ^ 63) :
    ∃ s s' q, Denotes (v - Float.ofInt (Pixel.coordinate v)) s |value v - Pixel.centre v| ∧
      Denotes (v - Float.ofInt (Pixel.coordinate w)) s' q ∧
      (q = |value v - Pixel.centre v| ∧ |value v - Pixel.centre w| = |value v - Pixel.centre v| ∨
        |value v - Pixel.centre v| + 2 ^ (-45 : ℤ) ≤ q ∧ 1 / 2 ≤ q ∧
          |value v - Pixel.centre v| < |value v - Pixel.centre w|) := by
  obtain ⟨j, hj, -, -⟩ := Pixel.exists_centre hv hg
  obtain ⟨k, hk, hodd, hbound⟩ := Pixel.exists_centre hw hg'
  have hr := roundsTo_sub hv (isFinite_ofInt_coordinate hv)
  have hr' := roundsTo_sub hv (isFinite_ofInt_coordinate hw)
  rw [← Pixel.centre] at hr hr'
  have hone := Pixel.abs_sub_centre_le hv hg h
  have hgrid := hg.sub_intCast j
  have hcases := Pixel.abs_sub_centre_cases hv hg h hodd
  rw [hj] at hr hone hcases ⊢
  rw [hk] at hr' ⊢
  have hrep := hgrid.representable (by linarith)
  have hlt := lt_top_of_le (by linarith : |value v - j| ≤ 2 ^ 64)
  obtain ⟨s, hd⟩ := exists_denotes (hr.isFinite_of_le hrep hlt le_rfl)
  rw [hr.value_of_representable hrep hlt.le] at hd
  have hfar : |value v - k| ≤ 2 ^ 64 := by
    have hk' : |(k : ℚ)| ≤ 2 ^ 63 := by exact_mod_cast hbound
    have htri := abs_sub (value v) k
    linarith
  have hz := representable_zpow (by norm_num : -1074 ≤ (64 : ℤ))
  obtain ⟨s', hd'⟩ := exists_denotes
    (hr'.isFinite_of_le (z := 2 ^ 64) (by exact_mod_cast hz) (lt_top_of_le le_rfl) hfar)
  refine ⟨s, s', _, hd, hd', hcases.imp (fun he => ⟨?_, he⟩) fun hfarther => ⟨?_, ?_, ?_⟩⟩
  · rw [hr'.value_of_representable (he ▸ hrep) (he ▸ hlt.le), he]
  · have hpos := two_zpow_pos (-45)
    have hsmall : (2 : ℚ) ^ (-45 : ℤ) ≤ 1 := by norm_num
    have hnonneg := abs_nonneg (value v - j)
    have hrep' := hgrid.abs.add_step.representable (by rw [abs_of_nonneg (by linarith)]; linarith)
    rw [abs_of_nonneg (by linarith)] at hrep'
    exact hr'.le_abs_value hrep' (lt_top_of_le (by linarith)).le hfarther.1
  · have hrep' := representable_zpow (by norm_num : -1074 ≤ (-1 : ℤ))
    rw [zpow_neg_one, ← one_div] at hrep'
    exact hr'.le_abs_value hrep' (lt_top_of_le (by norm_num)).le hfarther.2
  · linarith [two_zpow_pos (-45), hfarther.1]

lemma denotes_sub_centre_of_beyond (h : 2 ^ 63 < |value v|) :
    ∃ s q, Denotes (v - Float.ofInt (Pixel.coordinate v)) s q ∧ 2 ^ 11 ≤ q := by
  have hr := roundsTo_sub hv (isFinite_ofInt_coordinate hv)
  have hfar := Pixel.le_abs_sub_centre hv h
  rw [← Pixel.centre] at hr
  have hnear : |value v - Pixel.centre v| ≤ |value v| := by
    rw [Pixel.abs_sub_centre_of_beyond hv h]
    linarith
  obtain ⟨s, hd⟩ := exists_denotes (hr.isFinite_of_le (representable_abs_value hv) (abs_value_lt_top hv) hnear)
  have hz := representable_zpow (by norm_num : -1074 ≤ (11 : ℤ))
  exact ⟨s, _, hd, hr.le_abs_value (by exact_mod_cast hz) (pow_le_top (by norm_num)) hfar⟩

lemma exists_denotes_sub_centre (hg : OnGrid (value v)) :
    ∃ s q, Denotes (v - Float.ofInt (Pixel.coordinate v)) s q := by
  rcases le_or_gt |value v| (2 ^ 63) with h | h
  · obtain ⟨s, -, -, hd, -⟩ := denotes_sub_centre hv hv hg hg h
    exact ⟨s, _, hd⟩
  · obtain ⟨s, q, hd, -⟩ := denotes_sub_centre_of_beyond hv h
    exact ⟨s, q, hd⟩

end

lemma denotes_hit : Denotes Radii.default.hit false (5 : ℕ) := denotes_ofNat (by norm_num)

lemma Point.distance_center (p p' : Point) : p.distance p'.pixel.center =
    hypot (p.x - Float.ofInt (Pixel.coordinate p'.x)) (p.y - Float.ofInt (Pixel.coordinate p'.y)) := rfl

lemma Point.squareTo_center (p p' : Point) : p.squareTo p'.pixel.center =
    |value p.x - Pixel.centre p'.x| ^ 2 + |value p.y - Pixel.centre p'.y| ^ 2 := by
  rw [sq_abs, sq_abs]
  rfl

lemma add_step_le_sq {a b : ℚ} (ha : 0 ≤ a) (h : a + 2 ^ (-45 : ℤ) ≤ b) (hb : 1 / 2 ≤ b) :
    a ^ 2 + 2 ^ (-46 : ℤ) ≤ b ^ 2 := by
  have hstep : (2 : ℚ) ^ (-46 : ℤ) = 2 ^ (-45 : ℤ) * (1 / 2) := by norm_num
  have hpos := two_zpow_pos (-45)
  rw [hstep]
  generalize (2 : ℚ) ^ (-45 : ℤ) = e at *
  nlinarith

namespace Point.OnScreen

variable {p p' : Point} (hp : p.OnScreen) (hp' : p'.OnScreen)

include hp

lemma distance_le (h : p.InRange) : p.distance p.pixel.center ≤ Radii.default.hit := by
  obtain ⟨s, -, -, hx, -⟩ := denotes_sub_centre hp.finite_x hp.finite_x hp.grid_x hp.grid_x h.x
  obtain ⟨t, -, -, hy, -⟩ := denotes_sub_centre hp.finite_y hp.finite_y hp.grid_y hp.grid_y h.y
  have hone := Pixel.abs_sub_centre_le hp.finite_x hp.grid_x h.x
  have hone' := Pixel.abs_sub_centre_le hp.finite_y hp.grid_y h.y
  have htwo := hypot_le hx hy (representable_natCast (n := 2) (by norm_num)) (by nlinarith [hx.nonneg, hy.nonneg])
  rw [Point.distance_center, le_iff (ne_nan_hypot hx hy) (ne_nan_of_isFinite denotes_hit.isFinite), denotes_hit.value_eq]
  exact htwo.trans (by norm_num [withSign])

lemma inRange_of_distance_le (h : p.distance p.pixel.center ≤ Radii.default.hit) : p.InRange := by
  rw [Point.distance_center] at h
  have hclose : ∀ {s t q r}, Denotes (p.x - Float.ofInt (Pixel.coordinate p.x)) s q →
      Denotes (p.y - Float.ofInt (Pixel.coordinate p.y)) t r → q < 2 ^ 11 ∧ r < 2 ^ 11 := by
    intro s t q r hx hy
    by_contra hfar
    have hbig : (2 : ℚ) ^ 22 ≤ q ^ 2 + r ^ 2 := by
      rcases not_and_or.mp hfar with hfar | hfar <;> nlinarith [hx.nonneg, hy.nonneg, not_lt.mp hfar]
    have hz := representable_zpow (by norm_num : -1074 ≤ (10 : ℤ))
    have hlow := le_hypot hx hy (z := 2 ^ 10) (by exact_mod_cast hz) (pow_le_top (by norm_num)) (by linarith)
    have hle := (le_iff (ne_nan_hypot hx hy) (ne_nan_of_isFinite denotes_hit.isFinite)).mp h
    rw [denotes_hit.value_eq] at hle
    norm_num [withSign] at hle hlow
    linarith
  obtain ⟨s, q, hx⟩ := exists_denotes_sub_centre hp.finite_x hp.grid_x
  obtain ⟨t, r, hy⟩ := exists_denotes_sub_centre hp.finite_y hp.grid_y
  constructor <;> by_contra hbeyond
  · obtain ⟨s', q', hx', hq'⟩ := denotes_sub_centre_of_beyond hp.finite_x (not_le.mp hbeyond)
    exact not_lt.mpr hq' (hclose hx' hy).1
  · obtain ⟨t', r', hy', hr'⟩ := denotes_sub_centre_of_beyond hp.finite_y (not_le.mp hbeyond)
    exact not_lt.mpr hr' (hclose hx hy').2

include hp'

lemma distance_cases (h : p.InRange) :
    p.squareTo p'.pixel.center = p.squareTo p.pixel.center ∧ p.distance p'.pixel.center = p.distance p.pixel.center ∨
      p.squareTo p.pixel.center < p.squareTo p'.pixel.center ∧ p.distance p.pixel.center < p.distance p'.pixel.center := by
  obtain ⟨s, s', q, hx, hx', hxq⟩ := denotes_sub_centre hp.finite_x hp'.finite_x hp.grid_x hp'.grid_x h.x
  obtain ⟨t, t', r, hy, hy', hyr⟩ := denotes_sub_centre hp.finite_y hp'.finite_y hp.grid_y hp'.grid_y h.y
  have hone := Pixel.abs_sub_centre_le hp.finite_x hp.grid_x h.x
  have hone' := Pixel.abs_sub_centre_le hp.finite_y hp.grid_y h.y
  rw [squareTo_center, squareTo_center, distance_center, distance_center]
  have hnx := hx.nonneg
  have hny := hy.nonneg
  have hstep := two_zpow_pos (-46)
  have htwo : |value p.x - Pixel.centre p.x| ^ 2 + |value p.y - Pixel.centre p.y| ^ 2 ≤ 2 := by nlinarith
  rcases hxq with ⟨rfl, hxe⟩ | ⟨hxq, hxh, hxl⟩ <;> rcases hyr with ⟨rfl, hye⟩ | ⟨hyr, hyh, hyl⟩
  · exact .inl ⟨by rw [hxe, hye], hypot_congr hx' hx hy' hy⟩
  · refine .inr ⟨?_, hypot_lt hx hy hx' hy' htwo (by linarith [add_step_le_sq hny hyr hyh])⟩
    rw [hxe]
    exact add_lt_add_right (pow_lt_pow_left₀ hyl hny two_ne_zero) _
  · refine .inr ⟨?_, hypot_lt hx hy hx' hy' htwo (by linarith [add_step_le_sq hnx hxq hxh])⟩
    rw [hye]
    exact add_lt_add_left (pow_lt_pow_left₀ hxl hnx two_ne_zero) _
  · refine .inr ⟨?_, hypot_lt hx hy hx' hy' htwo
      (by linarith [add_step_le_sq hnx hxq hxh, add_step_le_sq hny hyr hyh])⟩
    exact add_lt_add (pow_lt_pow_left₀ hxl hnx two_ne_zero) (pow_lt_pow_left₀ hyl hny two_ne_zero)

lemma not_distance_lt (h : p.InRange) : ¬ p.distance p'.pixel.center < p.distance p.pixel.center := by
  rcases hp.distance_cases hp' h with ⟨-, htie⟩ | ⟨-, hlt⟩
  · rw [htie]
    exact not_lt_self _
  · exact not_lt_of_lt hlt

lemma distance_lt_iff (h : p.InRange) : p.distance p.pixel.center < p.distance p'.pixel.center ↔
    p.squareTo p.pixel.center < p.squareTo p'.pixel.center := by
  rcases hp.distance_cases hp' h with ⟨hsame, htie⟩ | ⟨hlt, hlt'⟩
  · rw [hsame, htie]
    exact iff_of_false (not_lt_self _) (lt_irrefl _)
  · exact iff_of_true hlt' hlt

end Point.OnScreen

lemma firstNearest_own_iff {p : Point} (hp : p.OnScreen) {cs : List Cluster}
    (hcs : ∀ c ∈ cs, ∃ p' : Point, p'.OnScreen ∧ c.center = p'.pixel.center) {c : Cluster} {k : ℕ} (hc : cs[k]? = some c)
    (hcenter : c.center = p.pixel.center) :
    (∃ d, FirstNearest (cs.map (p.distance ·.center)) Radii.default.hit k d) ↔
      p.InRange ∧ ∀ j < k, ∀ c' : Cluster, cs[j]? = some c' → p.squareTo c.center < p.squareTo c'.center := by
  have hget : ∀ {j : ℕ} {d}, (cs.map (p.distance ·.center))[j]? = some d ↔
      ∃ c', cs[j]? = some c' ∧ p.distance c'.center = d := by
    intro j d
    rw [List.getElem?_map, Option.map_eq_some_iff]
  have hcs' : ∀ {j : ℕ} {c'}, cs[j]? = some c' → ∃ p' : Point, p'.OnScreen ∧ c'.center = p'.pixel.center :=
    fun hj => hcs _ (List.mem_of_getElem? hj)
  rw [hcenter]
  constructor
  · rintro ⟨d, h⟩
    obtain rfl : p.distance p.pixel.center = d := by
      obtain ⟨c', hc', rfl⟩ := hget.mp h.get
      rw [← hcenter, Option.some.inj (hc.symm.trans hc')]
    have hin := hp.inRange_of_distance_le h.within
    refine ⟨hin, fun j hjk c' hj => ?_⟩
    obtain ⟨p', hp', he⟩ := hcs' hj
    rw [he, ← hp.distance_lt_iff hp' hin]
    -- one that is not farther is just as near, and so within reach
    rcases hp.distance_cases hp' hin with ⟨-, htie⟩ | ⟨-, hlt⟩
    · exact h.first j hjk _ (hget.mpr ⟨c', hj, congrArg _ he⟩) (htie ▸ h.within)
    · exact hlt
  · rintro ⟨hin, hearlier⟩
    refine ⟨p.distance p.pixel.center, hget.mpr ⟨c, hc, congrArg _ hcenter⟩, hp.distance_le hin, fun j d hj _ => ?_,
      fun j hjk d hj _ => ?_⟩
    · obtain ⟨c', hc', rfl⟩ := hget.mp hj
      obtain ⟨p', hp', he⟩ := hcs' hc'
      rw [he]
      exact hp.not_distance_lt hp' hin
    · obtain ⟨c', hc', rfl⟩ := hget.mp hj
      obtain ⟨p', hp', he⟩ := hcs' hc'
      have hlt := hearlier j hjk c' hc'
      rw [he] at hlt ⊢
      exact (hp.distance_lt_iff hp' hin).mpr hlt

lemma denotes_offsetX : Denotes Transform.default.offsetX false (400 : ℤ) :=
  ⟨400 * 2 ^ 44, -44, by decide +kernel, by norm_num⟩

lemma denotes_offsetY : Denotes Transform.default.offsetY false (300 : ℤ) :=
  ⟨300 * 2 ^ 44, -44, by decide +kernel, by norm_num⟩

lemma onScreen_toScreen {p : Position} (h : (Transform.default.toScreen p).isFinite) :
    (Transform.default.toScreen p).OnScreen := by
  obtain ⟨hx, hy⟩ := Bool.and_eq_true_iff.mp h
  exact ⟨hx, hy, onGrid_add denotes_offsetX (by norm_num) hx, onGrid_add denotes_offsetY (by norm_num) hy⟩

lemma ofPoint?_eq_some {p : Point} {k : Pixel} (h : Pixel.ofPoint? p = some k) : p.isFinite ∧ p.pixel = k := by
  rw [Pixel.ofPoint?] at h
  split at h
  · rename_i hp
    exact ⟨hp, Option.some.inj h⟩
  · cases h

section

variable {t : Text}

lemma onScreen_of_dot {d : Dot} {k : Pixel} (hd : d ∈ (project (trace t) .default).dots) (hk : d.pixel? = some k) :
    d.screen.OnScreen ∧ d.screen.pixel = k := by
  obtain ⟨hfinite, hpixel⟩ := ofPoint?_eq_some hk
  obtain ⟨n, -, rfl⟩ := List.mem_map.mp hd
  exact ⟨onScreen_toScreen hfinite, hpixel⟩

lemma exists_center {c : Cluster} (hc : c ∈ (project (trace t) .default).clusters) :
    ∃ p : Point, p.OnScreen ∧ c.center = p.pixel.center := by
  obtain ⟨hkey, he⟩ := Cluster.mem_ofDots.mp hc
  obtain ⟨d, hd, hk⟩ := mem_pixels.mp hkey
  obtain ⟨hscreen, hpixel⟩ := onScreen_of_dot hd hk
  refine ⟨d.screen, hscreen, ?_⟩
  rw [hpixel, congrArg Cluster.center he]
  rfl

lemma exists_cluster_of_marker {m : Marker} (hm : m ∈ (project (trace t) .default).markers) :
    ∃ c, (project (trace t) .default).clusters[m.cluster]? = some c ∧ m.overlap = c.isOverlap ∧
      m.position.OnScreen ∧ c.center = m.position.pixel.center := by
  obtain ⟨⟨c, k⟩, hx, hm⟩ := List.mem_filterMap.mp hm
  have hc := List.mem_zipIdx_iff_getElem?.mp hx
  have hmem := List.mem_of_getElem? hc
  obtain ⟨m', hm', hmarks⟩ := (numbered_project t .default).marker hmem k
  obtain rfl : m' = m := Option.some.inj (hm'.symm.trans hm)
  obtain ⟨n, hn, -, -, d, hd, hposition⟩ := hmarks.lowest
  obtain ⟨d', hd', hk⟩ := (numbered_project t .default).mem_nodesAt.mp ((Cluster.members_perm hmem).mem_iff.mp hn)
  obtain rfl : d' = d := Option.some.inj (hd'.symm.trans hd)
  obtain ⟨hscreen, hpixel⟩ := onScreen_of_dot (List.mem_of_getElem? hd) hk
  rw [hmarks.cluster, hposition, hpixel]
  refine ⟨c, hc, ?_, hscreen, congrArg Cluster.center (Cluster.mem_ofDots.mp hmem).2⟩
  rw [Bool.eq_iff_iff, hmarks.overlap, Cluster.isOverlap, decide_eq_true_iff]

lemma getElem?_inj_clusters {c : Cluster} {i j : ℕ} (hi : (project (trace t) .default).clusters[i]? = some c)
    (hj : (project (trace t) .default).clusters[j]? = some c) : i = j := by
  have hnodup : ((project (trace t) .default).clusters.map (·.key)).Nodup := by
    rw [project, Cluster.map_key_ofDots]
    exact nodup_pixels _
  obtain ⟨hlt, -⟩ := List.getElem?_eq_some_iff.mp hi
  exact (List.getElem?_inj hlt hnodup.of_map).mp (hi.trans hj.symm)

lemma eq_of_hit_eq {c c' : Cluster} {i j : ℕ} (hi : (project (trace t) .default).clusters[i]? = some c)
    (hj : (project (trace t) .default).clusters[j]? = some c')
    (h : (if c.isOverlap then Hit.cluster i else .node c.label) = if c'.isOverlap then Hit.cluster j else .node c'.label) :
    i = j := by
  split at h <;> split at h
  · exact Hit.cluster.inj h
  · cases h
  · cases h
  · have hlabel : ∀ {c : Cluster}, c ∈ (project (trace t) .default).clusters → c.label ∈ c.members := fun hc =>
      (Cluster.gathers_ofDots _ _ hc).label_mem
    have hmem := List.mem_of_getElem? hi
    have hmem' := List.mem_of_getElem? hj
    have hin := hlabel hmem'
    rw [← Hit.node.inj h] at hin
    obtain rfl := (numbered_project t .default).cluster_unique hmem hmem' (hlabel hmem) hin
    exact getElem?_inj_clusters hi hj

lemma resolveHit_own_iff {p : Point} {c : Cluster} {k : ℕ} {radius : Float}
    (hc : (project (trace t) .default).clusters[k]? = some c) :
    resolveHit p (project (trace t) .default).clusters radius = some (if c.isOverlap then .cluster k else .node c.label) ↔
      nearest? p (project (trace t) .default).clusters radius = some k := by
  rw [resolveHit_eq_some_iff]
  constructor
  · rintro ⟨i, c', hi, hc', hx⟩
    rwa [← eq_of_hit_eq hc' hc hx]
  · exact fun h => ⟨k, c, h, hc, rfl⟩

/-- A marker is hit at its own spot if and only if its coordinates are in range and no earlier centre is exactly as
near as its own. -/
theorem resolveHit_marker_iff {m : Marker} (hm : m ∈ (project (trace t) .default).markers) :
    ∃ c, (project (trace t) .default).clusters[m.cluster]? = some c ∧
      (resolveHit m.position (project (trace t) .default).clusters Radii.default.hit =
          some (if m.overlap then .cluster m.cluster else .node c.label) ↔
        m.position.InRange ∧ ∀ j < m.cluster, ∀ c', (project (trace t) .default).clusters[j]? = some c' →
          m.position.squareTo c.center < m.position.squareTo c'.center) := by
  obtain ⟨c, hc, hoverlap, hscreen, hcenter⟩ := exists_cluster_of_marker hm
  refine ⟨c, hc, ?_⟩
  rw [hoverlap, resolveHit_own_iff hc, nearest?_eq_some_iff]
  exact firstNearest_own_iff hscreen (fun _ => exists_center) hc hcenter

end

-- The dot at 404.5 is as near to the centre of the pixel 404 as to that of its own, and one at 5e19 has no pixel
-- near.
theorem not_resolveHit_marker :
    let p := project (trace "G1 X0.8\nG1 X0.9\nG1 X1e19".toList) .default
    p.markers.map (·.cluster) = [0, 1, 2] ∧ p.clusters.map (·.members) = [[0], [1], [2]] ∧
      p.markers.map (fun m => resolveHit m.position p.clusters Radii.default.hit) =
        [some (.node 0), some (.node 0), none] := by
  decide +kernel

theorem resolveHit_marker_iff_neighbours :
    let t := "G1 X0.8\nG1 X1".toList
    let p := project (trace t) .default
    let m : Marker := ⟨⟨Float.ofBits 0x4079500000000000, Float.ofBits 0x4072C00000000000⟩, ['1'], none, false, 1⟩
    m ∈ p.markers ∧ ∃ c, p.clusters[m.cluster]? = some c ∧
      (resolveHit m.position p.clusters Radii.default.hit = some (if m.overlap then .cluster m.cluster else .node c.label) ↔
        m.position.InRange ∧ ∀ j < m.cluster, ∀ c', p.clusters[j]? = some c' →
          m.position.squareTo c.center < m.position.squareTo c'.center) :=
  have hm : _ ∈ (project (trace "G1 X0.8\nG1 X1".toList) .default).markers := by decide +kernel
  ⟨hm, resolveHit_marker_iff hm⟩

end Toolpath.Scene
