import Toolpath.Proofs.Number.Length
import Toolpath.Proofs.Number.Whole
import Toolpath.Proofs.Scene.FirstNearest

/-!
What a click on an open ring selects: the first sub-node within reach, which need not be the nearest one.
-/

namespace Toolpath.Scene

open Number

structure FirstWithin (ds : List Float) (reach : Float) (k : ℕ) : Prop where
  within : ∃ d, ds[k]? = some d ∧ d ≤ reach
  first : ∀ j < k, ∀ d, ds[j]? = some d → ¬ d ≤ reach

lemma exists_firstWithin {ds : List Float} {reach d : Float} {k : ℕ} (hd : ds[k]? = some d) (h : d ≤ reach) :
    ∃ j ≤ k, FirstWithin ds reach j := by
  classical
  have hex : ∃ j, ∃ d, ds[j]? = some d ∧ d ≤ reach := ⟨k, d, hd, h⟩
  exact ⟨Nat.find hex, Nat.find_min' hex ⟨d, hd, h⟩, Nat.find_spec hex,
    fun j hj d hd hle => Nat.find_min hex hj ⟨d, hd, hle⟩⟩

namespace Point

variable {p q : Point} {reach : Float}

lemma distance_self_le (hp : p.isFinite) (hreach : exact reach ≠ .nan) (h : 0 ≤ value reach) : p.distance p ≤ reach := by
  obtain ⟨hx, hy⟩ := Bool.and_eq_true_iff.mp hp
  obtain ⟨s, hx⟩ := denotes_sub_self hx
  obtain ⟨s', hy⟩ := denotes_sub_self hy
  rw [distance, le_iff (ne_nan_hypot hx hy) hreach]
  exact (hypot_le hx hy representable_zero (by norm_num)).trans h

lemma not_distance_le (hp : p.isFinite = false) (hreach : reach.isFinite) : ¬ p.distance q ≤ reach := by
  intro hle
  have hcomponent : (p.x - q.x).isFinite = false ∨ (p.y - q.y).isFinite = false := by
    rw [isFinite, Bool.and_eq_false_iff] at hp
    refine hp.imp (fun h => ?_) fun h => ?_ <;> rw [Bool.eq_false_iff] at h ⊢ <;> exact mt isFinite_of_sub h
  rcases exact_hypot_of_not_isFinite hcomponent with h | h
  · exact ne_nan_of_le hle h
  · have hlt := (abs_lt.mp (abs_value_lt_top hreach)).2
    rw [distance, le_iff (by rw [h]; nofun) (ne_nan_of_isFinite hreach), value_of_infinite h] at hle
    exact not_lt.mpr hle hlt

end Point

structure Radii.Positive (r : Radii) : Prop where
  hit : r.hit.isFinite ∧ 0 < value r.hit
  ring : r.ring.isFinite ∧ 0 < value r.ring
  subNode : r.subNode.isFinite ∧ 0 < value r.subNode
  center : r.center.isFinite ∧ 0 < value r.center

lemma find?_eq_some_iff_firstWithin {α : Type} {xs : List α} {distance : α → Float} {reach : Float} {x : α} :
    xs.find? (fun y => distance y ≤ reach) = some x ↔
      ∃ k, xs[k]? = some x ∧ FirstWithin (xs.map distance) reach k := by
  rw [List.find?_eq_some_iff_getElem]
  constructor
  · rintro ⟨hx, k, hk, rfl, hfirst⟩
    refine ⟨k, List.getElem?_eq_getElem hk, ⟨distance xs[k], ?_, of_decide_eq_true hx⟩, fun j hjk d hj => ?_⟩
    · rw [List.getElem?_map, List.getElem?_eq_getElem hk]
      rfl
    · rw [List.getElem?_map, List.getElem?_eq_getElem (hjk.trans hk), Option.map_some, Option.some.injEq] at hj
      simpa [hj] using hfirst j hjk
  · rintro ⟨k, hx, ⟨d, hd, hle⟩, hfirst⟩
    obtain ⟨hk, rfl⟩ := List.getElem?_eq_some_iff.mp hx
    rw [List.getElem?_map, hx, Option.map_some, Option.some.injEq] at hd
    refine ⟨decide_eq_true (hd ▸ hle), k, hk, rfl, fun j hjk => ?_⟩
    have hout := hfirst j hjk (distance xs[j]) (by rw [List.getElem?_map, List.getElem?_eq_getElem (hjk.trans hk)]; rfl)
    simpa using hout

namespace Pointer

variable {p : Pointer} {c : Cluster} {clusters : List Cluster} {spot : Point}

def ringDistances (p : Pointer) (c : Cluster) (spot : Point) : List Float :=
  (ring c p.radii.ring).map fun s => spot.distance s.position

lemma ringDistances_get {k : ℕ} {d : Float} : (p.ringDistances c spot)[k]? = some d ↔
    ∃ s, (ring c p.radii.ring)[k]? = some s ∧ spot.distance s.position = d := by
  rw [ringDistances, List.getElem?_map, Option.map_eq_some_iff]

lemma subNodeAt?_expand : (p.expand c).subNodeAt? spot =
    ((ring c p.radii.ring).find? fun s => spot.distance s.position ≤ p.radii.subNode).map (·.node) := by
  rw [Option.map_eq_bind]
  rfl

lemma subNodeAt?_expand_eq_none_iff :
    (p.expand c).subNodeAt? spot = none ↔ ∀ d ∈ p.ringDistances c spot, ¬ d ≤ p.radii.subNode := by
  rw [subNodeAt?_expand, Option.map_eq_none_iff, List.find?_eq_none, ringDistances]
  simp only [decide_eq_true_eq, List.forall_mem_map]

lemma subNodeAt?_expand_eq_some_iff {n : ℕ} : (p.expand c).subNodeAt? spot = some n ↔
    ∃ k s, (ring c p.radii.ring)[k]? = some s ∧ s.node = n ∧ FirstWithin (p.ringDistances c spot) p.radii.subNode k := by
  rw [subNodeAt?_expand, Option.map_eq_some_iff]
  constructor
  · rintro ⟨s, hs, hn⟩
    obtain ⟨k, hk, hfirst⟩ := find?_eq_some_iff_firstWithin.mp hs
    exact ⟨k, s, hk, hn, hfirst⟩
  · rintro ⟨k, s, hk, hn, hfirst⟩
    exact ⟨s, find?_eq_some_iff_firstWithin.mpr ⟨k, hk, hfirst⟩, hn⟩

section

variable (h : ¬ spot.distance c.center ≤ p.radii.center)

include h

lemma click_expand : (p.expand c).click spot clusters =
    match (p.expand c).subNodeAt? spot with
    | some n => (.selectNode n, p.expand c)
    | none =>
      match clickClosed ⟨p.radii, none⟩ spot clusters with
      | (.nothing, q) => (.collapsed, q)
      | r => r :=
  if_neg h

lemma click_of_subNodeAt? {n : ℕ} (hn : (p.expand c).subNodeAt? spot = some n) :
    ((p.expand c).click spot clusters).1 = .selectNode n := by
  rw [click_expand h, hn]

lemma click_of_nothing (hn : (p.expand c).subNodeAt? spot = none) (hit : resolveHit spot clusters p.radii.hit = none) :
    ((p.expand c).click spot clusters).1 = .collapsed := by
  have hhit : Pointer.hit ⟨p.radii, none⟩ spot clusters = none := hit
  rw [click_expand h, hn, clickClosed, hhit]

end

lemma resolveHit_of_not_isFinite {radius : Float} (hs : spot.isFinite = false) (hr : radius.isFinite) :
    resolveHit spot clusters radius = none := by
  have hnearest : nearest? spot clusters radius = none :=
    nearest?_eq_none_iff.mpr fun c _ => Point.not_distance_le hs hr
  rw [resolveHit, hnearest]
  rfl

lemma click_subNode_iff (hr : p.radii.Positive) {i : ℕ} {s : SubNode} (hs : (ring c p.radii.ring)[i]? = some s)
    (hfar : p.radii.center < s.position.distance c.center) :
    ((p.expand c).click s.position clusters).1 = .selectNode s.node ↔
      s.position.isFinite ∧ ∀ j s', (ring c p.radii.ring)[j]? = some s' →
        FirstWithin (p.ringDistances c s.position) p.radii.subNode j → s'.node = s.node := by
  have hoff := not_le_of_lt hfar
  by_cases hfinite : s.position.isFinite
  · rw [and_iff_right hfinite]
    constructor
    · intro hclick j s' hs' hfirst
      have hn := subNodeAt?_expand_eq_some_iff.mpr ⟨j, s', hs', rfl, hfirst⟩
      rw [click_of_subNodeAt? hoff hn] at hclick
      exact Click.selectNode.inj hclick
    · intro hfirst
      have hself := Point.distance_self_le hfinite (ne_nan_of_isFinite hr.subNode.1) hr.subNode.2.le
      obtain ⟨j, -, hj⟩ := exists_firstWithin (ringDistances_get.mpr ⟨s, hs, rfl⟩) hself
      obtain ⟨d, hd, -⟩ := hj.within
      obtain ⟨s', hs', -⟩ := ringDistances_get.mp hd
      exact click_of_subNodeAt? hoff (subNodeAt?_expand_eq_some_iff.mpr ⟨j, s', hs', hfirst j s' hs' hj, hj⟩)
  · rw [Bool.not_eq_true] at hfinite
    have hnone : (p.expand c).subNodeAt? s.position = none := by
      rw [subNodeAt?_expand_eq_none_iff]
      intro d hd
      obtain ⟨y, -, rfl⟩ := List.mem_map.mp hd
      exact Point.not_distance_le hfinite hr.subNode.1
    rw [click_of_nothing hoff hnone (resolveHit_of_not_isFinite hfinite hr.hit.1)]
    simp [hfinite]

lemma subNodeAt?_nearest_iff : (∀ k d s, FirstNearest (p.ringDistances c spot) p.radii.subNode k d →
      (ring c p.radii.ring)[k]? = some s → (p.expand c).subNodeAt? spot = some s.node) ↔
    ∀ j k d s s', FirstWithin (p.ringDistances c spot) p.radii.subNode j → (ring c p.radii.ring)[j]? = some s' →
      FirstNearest (p.ringDistances c spot) p.radii.subNode k d → (ring c p.radii.ring)[k]? = some s → s'.node = s.node := by
  constructor
  · intro h j k d s s' hj hs' hk hs
    have hn := subNodeAt?_expand_eq_some_iff.mpr ⟨j, s', hs', rfl, hj⟩
    rw [h k d s hk hs] at hn
    exact (Option.some.inj hn).symm
  · intro h k d s hk hs
    obtain ⟨j, -, hj⟩ := exists_firstWithin hk.get hk.within
    obtain ⟨d', hd', -⟩ := hj.within
    obtain ⟨s', hs', -⟩ := ringDistances_get.mp hd'
    exact subNodeAt?_expand_eq_some_iff.mpr ⟨j, s', hs', h j k d s s' hj hs' hk hs, hj⟩

end Pointer

end Toolpath.Scene
