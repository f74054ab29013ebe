import Toolpath.Proofs.Scene.RingReach
import Toolpath.Proofs.Scene.RingSpacing

/-!
Which members of an open cluster can be selected at their own spot. The ring has room for fifteen: neighbours on a
larger one are within reach of each other, and the first sub-node within reach is taken instead of the nearest one.
-/

namespace Toolpath.Scene.Pointer

open Number

variable {p : Pointer} {c : Cluster} {clusters : List Cluster}

lemma positive_default : Radii.default.Positive := by
  have hpos : ∀ {n : ℕ}, 0 < n → n < 2 ^ 53 → (Float.ofNat n).isFinite ∧ 0 < value (Float.ofNat n) := fun h hn =>
    ⟨(denotes_ofNat hn).isFinite, by rw [value_ofNat hn]; exact_mod_cast h⟩
  exact ⟨hpos (by norm_num) (by norm_num), hpos (by norm_num) (by norm_num), hpos (by norm_num) (by norm_num),
    hpos (by norm_num) (by norm_num)⟩

section

variable {i : ℕ} {s : SubNode} (hp : p.radii = .default) (hs : (ring c p.radii.ring)[i]? = some s)

include hp hs

lemma le_of_firstWithin {j : ℕ} (hfinite : s.position.isFinite)
    (hj : FirstWithin (p.ringDistances c s.position) p.radii.subNode j) : j ≤ i := by
  -- A sub-node is within reach of itself, and only an earlier one can stand in its way.
  have hr := (hp ▸ positive_default : p.radii.Positive).subNode
  have hself := Point.distance_self_le hfinite (ne_nan_of_isFinite hr.1) hr.2.le
  by_contra hlt
  exact hj.first i (not_le.mp hlt) _ (ringDistances_get.mpr ⟨s, hs, rfl⟩) hself

lemma click_default_iff (hc : c.center.HasRoom) (hnodup : c.members.Nodup) (hn : c.members.length < 2 ^ 53) :
    ((p.expand c).click s.position clusters).1 = .selectNode s.node ↔ i = 0 ∨ c.members.length ≤ 15 := by
  -- With the default radii the ring has room for fifteen; on a larger one only the first sub-node can be selected.
  have hr : p.radii.Positive := hp ▸ positive_default
  have hs₀ := hs
  rw [hp] at hs₀
  have hfinite := (onRing hc hn hs₀).finite
  have hfar : p.radii.center < s.position.distance c.center := by
    rw [hp]
    exact center_lt_distance hc hs₀ hn
  rw [click_subNode_iff hr hs hfar, and_iff_right hfinite]
  constructor
  · intro hfirst
    by_contra hmany
    obtain ⟨hi, hmany⟩ := not_or.mp hmany
    obtain ⟨k, rfl⟩ := Nat.exists_eq_succ_of_ne_zero hi
    obtain ⟨hlt, -, -⟩ := ring_getElem? hs
    -- the neighbour is within reach, and so the first one within reach comes before
    obtain ⟨s', hs'⟩ : ∃ s', (ring c p.radii.ring)[k]? = some s' :=
      ⟨_, List.getElem?_eq_getElem (by rw [length_ring]; omega)⟩
    have hnear : s.position.distance s'.position ≤ p.radii.subNode := by
      rw [hp] at hs' ⊢
      exact distance_le_of_many hc hs₀ hs' hn (by omega) rfl
    obtain ⟨j, hjk, hj⟩ := exists_firstWithin (ringDistances_get.mpr ⟨s', hs', rfl⟩) hnear
    obtain ⟨d, hd, -⟩ := hj.within
    obtain ⟨s'', hs'', -⟩ := ringDistances_get.mp hd
    have hji := ring_inj hnodup hs hs'' (hfirst j s'' hs'' hj)
    omega
  · intro hfew j s' hs' hj
    suffices he : j = i by
      subst he
      exact congrArg SubNode.node (Option.some.inj (hs'.symm.trans hs))
    have hle := le_of_firstWithin hp hs hfinite hj
    rcases hfew with rfl | hfew
    · exact Nat.le_zero.mp hle
    · obtain ⟨d, hd, hreach⟩ := hj.within
      obtain ⟨s'', hs'', rfl⟩ := ringDistances_get.mp hd
      by_contra hne
      rw [hp] at hs'' hreach
      exact not_distance_le_of_few hc hs₀ hs'' hfew (Ne.symm hne) hreach

end

example {c : Cluster} (hmembers : c.members = List.range 15) {k : Pixel} (hc : c.center = k.center)
    (hx : |k.x| ≤ 2 ^ 40) (hy : |k.y| ≤ 2 ^ 40) (hp : p.radii = .default) {i : ℕ} {s : SubNode}
    (hs : (ring c p.radii.ring)[i]? = some s) : ((p.expand c).click s.position clusters).1 = .selectNode s.node := by
  have hlength : c.members.length = 15 := by rw [hmembers, List.length_range]
  have hnodup : c.members.Nodup := by
    rw [hmembers]
    exact List.nodup_range
  exact (click_default_iff hp hs (hc ▸ hasRoom_center hx hy) hnodup (by omega)).mpr (.inr hlength.le)

/-- What can be selected on the ring of a cluster: at the spot of a sub-node, near any spot, and with the default
radii. -/
structure Selection (p : Pointer) (c : Cluster) : Prop where
  click_iff : ∀ (clusters : List Cluster) (i : ℕ) (s : SubNode), (ring c p.radii.ring)[i]? = some s →
    p.radii.center < s.position.distance c.center →
      (((p.expand c).click s.position clusters).1 = .selectNode s.node ↔
        s.position.isFinite ∧ ∀ j s', (ring c p.radii.ring)[j]? = some s' →
          FirstWithin (p.ringDistances c s.position) p.radii.subNode j → s'.node = s.node)
  nearest_iff : ∀ spot : Point, (∀ k d s, FirstNearest (p.ringDistances c spot) p.radii.subNode k d →
      (ring c p.radii.ring)[k]? = some s → (p.expand c).subNodeAt? spot = some s.node) ↔
    ∀ j k d s s', FirstWithin (p.ringDistances c spot) p.radii.subNode j → (ring c p.radii.ring)[j]? = some s' →
      FirstNearest (p.ringDistances c spot) p.radii.subNode k d → (ring c p.radii.ring)[k]? = some s → s'.node = s.node
  nothing_iff : ∀ spot : Point,
    (p.expand c).subNodeAt? spot = none ↔ ∀ d ∈ p.ringDistances c spot, ¬ d ≤ p.radii.subNode
  default_iff : p.radii = .default → c.center.HasRoom → c.members.Nodup → c.members.length < 2 ^ 53 →
    ∀ (clusters : List Cluster) (i : ℕ) (s : SubNode), (ring c p.radii.ring)[i]? = some s →
      (((p.expand c).click s.position clusters).1 = .selectNode s.node ↔ i = 0 ∨ c.members.length ≤ 15)

theorem selection {p : Pointer} (hr : p.radii.Positive) (c : Cluster) : p.Selection c :=
  ⟨fun _ _ _ => click_subNode_iff hr, fun _ => subNodeAt?_nearest_iff, fun _ => subNodeAt?_expand_eq_none_iff,
    fun hp hc hnodup hn _ _ _ hs => click_default_iff hp hs hc hnodup hn⟩

theorem selection_default : Radii.default.Positive ∧
    (Pointer.new .default).Selection ⟨⟨100, 100⟩, Pixel.center ⟨100, 100⟩, List.range 16⟩ :=
  ⟨positive_default, selection positive_default _⟩

-- On a ring of sixteen the second sub-node cannot be selected, since the first one is within reach of it.
theorem click_neighbour :
    let c : Cluster := ⟨⟨100, 100⟩, Pixel.center ⟨100, 100⟩, List.range 16⟩
    let p := Pointer.new .default
    ∃ s, (ring c p.radii.ring)[1]? = some s ∧ s.node = 1 ∧ p.radii.center < s.position.distance c.center ∧
      ((p.expand c).click s.position [c]).1 = .selectNode 0 := by
  refine ⟨((ring ⟨⟨100, 100⟩, Pixel.center ⟨100, 100⟩, List.range 16⟩ Radii.default.ring)[1]?).getD ⟨0, ⟨0, 0⟩⟩, ?_⟩
  decide +kernel

end Toolpath.Scene.Pointer
