import Toolpath.Proofs.Number.Whole
import Toolpath.Proofs.Scene.Labelling
import Toolpath.Settings.Config

/-!
Which configurations show the machine origin. A configuration that is accepted has a scale to draw with, but the
centre of an infinite canvas is no place on the screen.
-/

namespace Toolpath.Number

variable {x y z : Float}

lemma value_of_beq_zero (h : x == Float.ofNat 0) : x.isFinite ∧ value x = 0 := by
  have hzero : exact (Float.ofNat 0) ≠ .nan := ne_nan_of_isFinite denotes_ofNat_zero.isFinite
  have hx : exact x ≠ .nan := by
    intro hx
    have hcompare : (x == Float.ofNat 0) = (x.toModel.unpack.compare (Float.ofNat 0).toModel.unpack == some .eq) := rfl
    rw [hcompare, unpack_of_nan hx] at h
    cases h
  have hvalue : value x = 0 := by rw [(beq_iff hx hzero).mp h, denotes_ofNat_zero.value_eq, withSign_zero]
  refine ⟨isFinite_iff.mpr ?_, hvalue⟩
  rcases exact_cases x with hn | ⟨s, hs⟩ | hd
  · exact absurd hn hx
  · rw [value_of_infinite hs] at hvalue
    cases s <;> simp [withSign, top_pos.ne'] at hvalue
  · exact hd

lemma isFinite_mul_add_of_zero (hx : x.isFinite) (h : value x = 0) (hy : y.isFinite) (hz : z.isFinite) :
    (x * y + z).isFinite := by
  have hm := roundsTo_mul hx hy
  rw [h, zero_mul] at hm
  have hm' := hm.isFinite_of_le representable_zero top_pos abs_zero.le
  have hvalue := hm.value_of_representable (by rw [abs_zero]; exact representable_zero) (by rw [abs_zero]; exact top_pos.le)
  have ha := roundsTo_add hm' hz
  rw [hvalue, zero_add] at ha
  exact ha.isFinite_of_le (representable_abs_value hz) (abs_value_lt_top hz) le_rfl

lemma denotes_two : Denotes 2 false 2 := ⟨2 ^ 52, -51, by decide +kernel, by norm_num⟩

lemma isFinite_div_two_iff : (x / 2).isFinite ↔ x.isFinite := by
  constructor
  · intro h
    by_contra hx
    rw [Bool.not_eq_true] at hx
    rcases exact_of_not_isFinite hx with hn | ⟨s, hs⟩
    · rw [not_isFinite_of_nan (exact_div_nan hn 2)] at h
      cases h
    · rw [not_isFinite_of_infinite (exact_div_infinite hs denotes_two two_ne_zero)] at h
      cases h
  · intro h
    have htwo : value 2 = 2 := by rw [denotes_two.value_eq, withSign, if_neg Bool.false_ne_true]
    have hr := roundsTo_div h denotes_two.isFinite (by rw [htwo]; exact two_ne_zero)
    refine hr.isFinite_of_le (representable_abs_value h) (abs_value_lt_top h) ?_
    rw [htwo, abs_div, abs_two]
    exact half_le_self (abs_nonneg _)

end Toolpath.Number

namespace Toolpath.Settings

open Program Scene Number

structure Config.Valid (c : Config) : Prop where
  scale_finite : c.view.scale.isFinite
  scale_pos : Float.ofNat 0 < c.view.scale
  canvasWidth_pos : Float.ofNat 0 < c.view.canvasWidth
  canvasHeight_pos : Float.ofNat 0 < c.view.canvasHeight
  offsetX_finite : ∀ x ∈ c.view.offsetX, x.isFinite
  offsetY_finite : ∀ y ∈ c.view.offsetY, y.isFinite
  hit_pos : Float.ofNat 0 < c.radii.hit
  ring_pos : Float.ofNat 0 < c.radii.ring
  subNode_pos : Float.ofNat 0 < c.radii.subNode
  center_pos : Float.ofNat 0 < c.radii.center
  historyDepth_pos : 0 < c.historyDepth

lemma Config.validate_iff (c : Config) : c.validate = .ok () ↔ c.Valid := by
  rw [validate_eq_ok_iff]
  constructor
  · intro h
    simp only [rules, isPositive, List.forall_mem_cons, Bool.and_eq_true, decide_eq_true_eq, Option.all_eq_true] at h
    obtain ⟨⟨hscale, hscale'⟩, ⟨hwidth, hheight⟩, hx, hy, hhit, hring, hsub, hcenter, hdepth, -⟩ := h
    exact ⟨hscale, hscale', hwidth, hheight, hx, hy, hhit, hring, hsub, hcenter, hdepth⟩
  · rintro ⟨hscale, hscale', hwidth, hheight, hx, hy, hhit, hring, hsub, hcenter, hdepth⟩
    simp only [rules, isPositive, List.forall_mem_cons, Bool.and_eq_true, decide_eq_true_eq, Option.all_eq_true]
    exact ⟨⟨hscale, hscale'⟩, ⟨hwidth, hheight⟩, hx, hy, hhit, hring, hsub, hcenter, hdepth, nofun⟩

def IsMarked (p : Projection) (node : ℕ) : Prop :=
  ∃ (d : Dot) (k : ℕ) (c : Cluster) (m : Marker), p.dots[node]? = some d ∧ Pixel.ofPoint? d.screen = some c.key ∧
    p.clusters[k]? = some c ∧ node ∈ c.members ∧ p.markers[k]? = some m ∧ m.cluster = k

lemma isMarked_iff {t : Text} {f : Transform} {i : ℕ} {n : Node} (hn : (drawn (trace t))[i]? = some n) :
    IsMarked (project (trace t) f) i ↔ (f.toScreen n.position).isFinite := by
  have hdot : (project (trace t) f).dots[i]? = some ⟨i, f.toScreen n.position, n.position.z⟩ := by
    rw [getElem?_dots_project, hn]
    rfl
  constructor
  · rintro ⟨d, k, c, m, hd, hk, -⟩
    obtain rfl := Option.some.inj (hdot.symm.trans hd)
    rw [Pixel.ofPoint?] at hk
    split at hk
    · assumption
    · cases hk
  · intro hfinite
    obtain ⟨c, hc, hi⟩ := ((numbered_project t f).exists_cluster_iff i).mpr ⟨_, hdot, hfinite⟩
    obtain ⟨d, hd, hk⟩ := (numbered_project t f).mem_nodesAt.mp ((Cluster.members_perm hc).mem_iff.mp hi)
    obtain ⟨k, hck⟩ := List.mem_iff_getElem?.mp hc
    obtain ⟨m, hm, hmarks⟩ := marker_project hck
    exact ⟨d, k, c, m, hd, hk, hck, hi, hm, hmarks.cluster⟩

/-- The transform shows the machine origin, and marks the nodes there. -/
structure Shows (f : Transform) : Prop where
  scale_finite : f.scale.isFinite
  scale_pos : Float.ofNat 0 < f.scale
  offsetX_finite : f.offsetX.isFinite
  offsetY_finite : f.offsetY.isFinite
  origin_finite : (f.toScreen .origin).isFinite
  marked : ∀ (t : Text) (i : ℕ) (n : Node), (drawn (trace t))[i]? = some n →
    n.position.x == Float.ofNat 0 → n.position.y == Float.ofNat 0 → IsMarked (project (trace t) f) i

lemma isFinite_toScreen_of_zero {f : Transform} (hs : f.scale.isFinite) (hx : f.offsetX.isFinite)
    (hy : f.offsetY.isFinite) {p : Position} (hpx : p.x == Float.ofNat 0) (hpy : p.y == Float.ofNat 0) :
    (f.toScreen p).isFinite := by
  obtain ⟨hpx, hpx'⟩ := value_of_beq_zero hpx
  obtain ⟨hpy, hpy'⟩ := value_of_beq_zero hpy
  obtain ⟨s, hd⟩ := exists_denotes hpy
  rw [hpy', abs_zero] at hd
  rw [Transform.toScreen, Point.isFinite, Bool.and_eq_true]
  exact ⟨isFinite_mul_add_of_zero hpx hpx' hs hx,
    isFinite_mul_add_of_zero hd.neg.isFinite (by rw [hd.neg.value_eq, withSign_zero]) hs hy⟩

lemma shows_of_isFinite {f : Transform} (hs : f.scale.isFinite) (hs' : Float.ofNat 0 < f.scale)
    (hx : f.offsetX.isFinite) (hy : f.offsetY.isFinite) : Shows f where
  scale_finite := hs
  scale_pos := hs'
  offsetX_finite := hx
  offsetY_finite := hy
  origin_finite := isFinite_toScreen_of_zero hs hx hy (by decide +kernel) (by decide +kernel)
  marked _ _ _ hn hnx hny := (isMarked_iff hn).mpr (isFinite_toScreen_of_zero hs hx hy hnx hny)

lemma isFinite_offset_iff {offset : Option Float} {length : Float} (h : ∀ x ∈ offset, x.isFinite) :
    (offset.getD (length / 2)).isFinite ↔ (offset = none → length.isFinite) := by
  cases offset with
  | none => simpa using isFinite_div_two_iff
  | some x => simpa using h x rfl

/-- An accepted configuration shows the machine origin if and only if a canvas that gives an offset is finite. -/
theorem session_shows_iff {c : Config} (hc : c.validate = .ok ()) :
    Shows c.session.transform ↔
      (c.view.offsetX = none → c.view.canvasWidth.isFinite) ∧ (c.view.offsetY = none → c.view.canvasHeight.isFinite) := by
  have hv := c.validate_iff.mp hc
  rw [← isFinite_offset_iff hv.offsetX_finite, ← isFinite_offset_iff hv.offsetY_finite]
  exact ⟨fun h => ⟨h.offsetX_finite, h.offsetY_finite⟩,
    fun ⟨hx, hy⟩ => shows_of_isFinite hv.scale_finite hv.scale_pos hx hy⟩

-- The default configuration on an infinitely wide canvas is accepted, and nothing is marked.
theorem not_session_shows :
    let c : Config := { Config.default with view := { View.default with canvasWidth := Float.ofBits 0x7FF0000000000000 } }
    c.validate = .ok () ∧ ¬ c.session.transform.offsetX.isFinite ∧ ¬ (c.session.transform.toScreen .origin).isFinite ∧
      (project (trace "G1 X0 Y0".toList) c.session.transform).clusters = [] := by
  decide +kernel

theorem session_shows_given_offset :
    let c : Config := { Config.default with
      view := ⟨Float.ofNat 5, Float.ofBits 0x7FF0000000000000, Float.ofNat 600, some (Float.ofNat 0), none⟩ }
    c.validate = .ok () ∧ (Shows c.session.transform ↔
      (c.view.offsetX = none → c.view.canvasWidth.isFinite) ∧ (c.view.offsetY = none → c.view.canvasHeight.isFinite)) ∧
        c.view.offsetX ≠ none ∧ c.view.canvasHeight.isFinite := by
  intro c
  have hc : c.validate = .ok () := by decide +kernel
  exact ⟨hc, session_shows_iff hc, by decide +kernel, by decide +kernel⟩

end Toolpath.Settings
