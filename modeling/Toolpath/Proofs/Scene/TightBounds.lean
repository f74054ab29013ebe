import Toolpath.Proofs.Scene.Labelling
import Toolpath.Proofs.Number.Sum

/-!
Bounds are tight: they are the least and the greatest coordinates of the positions that are finite, in whatever order
these come, and there are none if no position is.
-/

namespace Toolpath.Scene

open Program Number

variable {b v : Float} {vs ws : List Float} {g : Float → ℚ}

structure Leads (g : Float → ℚ) (vs : List Float) (b : Float) : Prop where
  mem : b ∈ vs
  le : ∀ v ∈ vs, g b ≤ g v

namespace Leads

lemma singleton (g : Float → ℚ) (b : Float) : Leads g [b] b :=
  ⟨List.mem_singleton_self b, fun _ hv => by rw [List.mem_singleton.mp hv]⟩

lemma concat (h : Leads g vs b) {p : Prop} [Decidable p] (hp : p ↔ g v < g b) :
    Leads g (vs ++ [v]) (if p then v else b) := by
  split
  · rename_i hlt
    rw [hp] at hlt
    refine ⟨List.mem_append_right vs (List.mem_singleton_self v), fun w hw => ?_⟩
    rcases List.mem_append.mp hw with hw | hw
    · exact hlt.le.trans (h.le w hw)
    · rw [List.mem_singleton.mp hw]
  · rename_i hge
    rw [hp, not_lt] at hge
    refine ⟨List.mem_append_left [v] h.mem, fun w hw => ?_⟩
    rcases List.mem_append.mp hw with hw | hw
    · exact h.le w hw
    · rwa [List.mem_singleton.mp hw]

lemma eq_of_perm {b' : Float} (h : Leads g vs b) (h' : Leads g ws b') (hp : vs.Perm ws) : g b = g b' :=
  le_antisymm (h.le b' (hp.mem_iff.mpr h'.mem)) (h'.le b (hp.mem_iff.mp h.mem))

end Leads

def greatestDouble : ℚ := (2 ^ 53 - 1) * 2 ^ (971 : ℤ)

lemma abs_value_le_greatestDouble (hv : v.isFinite) : |value v| ≤ greatestDouble := by
  obtain ⟨s, q, hd⟩ := isFinite_iff.mp hv
  obtain ⟨m, e, hx, hq⟩ := id hd
  obtain ⟨hc, he⟩ := canonical_of_exactBits hx
  have hm : (m : ℚ) + 1 ≤ 2 ^ 53 := by exact_mod_cast hc.lt
  have hpow : (2 : ℚ) ^ e ≤ 2 ^ (971 : ℤ) := zpow_le_zpow_right₀ (by norm_num) he
  rw [hd.abs_value, ← hq, greatestDouble]
  exact mul_le_mul (by linarith) hpow (two_zpow_pos e).le (by norm_num)

namespace Extent

lemma denotes_least_empty : Denotes empty.least false greatestDouble :=
  ⟨2 ^ 53 - 1, 971, by decide +kernel, by rw [greatestDouble]; norm_num⟩

lemma denotes_greatest_empty : Denotes empty.greatest true greatestDouble :=
  ⟨2 ^ 53 - 1, 971, by decide +kernel, by rw [greatestDouble]; norm_num⟩

lemma value_least_empty : value empty.least = greatestDouble := by
  rw [denotes_least_empty.value_eq, withSign, if_neg Bool.false_ne_true]

lemma value_greatest_empty : value empty.greatest = -greatestDouble := by
  rw [denotes_greatest_empty.value_eq, withSign, if_pos rfl]

structure Spans (e : Extent) (vs : List Float) : Prop where
  finite : ∀ v ∈ vs, v.isFinite
  least : Leads value (empty.least :: vs) e.least
  greatest : Leads (fun v => -value v) (empty.greatest :: vs) e.greatest

namespace Spans

variable {e : Extent}

lemma empty : Extent.empty.Spans [] := ⟨nofun, .singleton _ _, .singleton _ _⟩

lemma ne_nan_least (h : e.Spans vs) : exact e.least ≠ .nan := by
  rcases List.mem_cons.mp h.least.mem with hstart | hmem
  · rw [hstart]
    exact ne_nan_of_isFinite denotes_least_empty.isFinite
  · exact ne_nan_of_isFinite (h.finite _ hmem)

lemma ne_nan_greatest (h : e.Spans vs) : exact e.greatest ≠ .nan := by
  rcases List.mem_cons.mp h.greatest.mem with hstart | hmem
  · rw [hstart]
    exact ne_nan_of_isFinite denotes_greatest_empty.isFinite
  · exact ne_nan_of_isFinite (h.finite _ hmem)

lemma insert (h : e.Spans vs) (hv : v.isFinite) : (e.insert v).Spans (vs ++ [v]) where
  finite := List.forall_mem_append.mpr ⟨h.finite, List.forall_mem_singleton.mpr hv⟩
  least := h.least.concat (lt_iff (ne_nan_of_isFinite hv) h.ne_nan_least)
  greatest := h.greatest.concat (by rw [neg_lt_neg_iff]; exact lt_iff h.ne_nan_greatest (ne_nan_of_isFinite hv))

lemma foldl (hvs : ∀ v ∈ vs, v.isFinite) : (vs.foldl Extent.insert Extent.empty).Spans vs := by
  induction vs using List.reverseRecOn with
  | nil => exact empty
  | append_singleton vs v ih =>
    obtain ⟨hvs, hv⟩ := List.forall_mem_append.mp hvs
    rw [List.foldl_concat]
    exact (ih hvs).insert (hv v (List.mem_singleton_self v))

lemma value_least_le (h : e.Spans vs) (hv : v ∈ vs) : value e.least ≤ value v := h.least.le v (List.mem_cons_of_mem _ hv)

lemma value_le_greatest (h : e.Spans vs) (hv : v ∈ vs) : value v ≤ value e.greatest :=
  neg_le_neg_iff.mp (h.greatest.le v (List.mem_cons_of_mem _ hv))

lemma isProper_iff (h : e.Spans vs) : e.isProper ↔ vs ≠ [] := by
  rw [isProper, decide_eq_true_iff, le_iff h.ne_nan_least h.ne_nan_greatest]
  constructor
  · rintro hle rfl
    have hpos : 0 < greatestDouble := by
      rw [greatestDouble]
      norm_num
    rw [List.mem_singleton.mp h.least.mem, List.mem_singleton.mp h.greatest.mem, value_least_empty,
      value_greatest_empty] at hle
    linarith
  · intro hne
    obtain ⟨v, hv⟩ := List.exists_mem_of_ne_nil vs hne
    exact (h.value_least_le hv).trans (h.value_le_greatest hv)

end Spans

/-- The ends are attained, with the two zeros counted equal, and nothing lies beyond them. -/
structure Tight (e : Extent) (vs : List Float) : Prop where
  least_mem : ∃ v ∈ vs, v == e.least
  least_le : ∀ v ∈ vs, e.least ≤ v
  greatest_mem : ∃ v ∈ vs, v == e.greatest
  le_greatest : ∀ v ∈ vs, v ≤ e.greatest

structure Same (e e' : Extent) : Prop where
  least : e.least == e'.least
  greatest : e.greatest == e'.greatest

variable {e e' : Extent}

lemma Spans.tight (h : e.Spans vs) (hne : vs ≠ []) : e.Tight vs := by
  -- An end that is still the one at the start is attained all the same, since no double lies beyond it.
  have hvs : ∀ v ∈ vs, exact v ≠ .nan := fun v hv => ne_nan_of_isFinite (h.finite v hv)
  obtain ⟨w, hw⟩ := List.exists_mem_of_ne_nil vs hne
  have hbound := abs_le.mp (abs_value_le_greatestDouble (h.finite w hw))
  refine ⟨?_, fun v hv => (le_iff h.ne_nan_least (hvs v hv)).mpr (h.value_least_le hv), ?_,
    fun v hv => (le_iff (hvs v hv) h.ne_nan_greatest).mpr (h.value_le_greatest hv)⟩
  · rcases List.mem_cons.mp h.least.mem with hstart | hmem
    · have hle := h.value_least_le hw
      refine ⟨w, hw, (beq_iff (hvs w hw) h.ne_nan_least).mpr (le_antisymm ?_ hle)⟩
      rw [hstart, value_least_empty]
      exact hbound.2
    · exact ⟨_, hmem, (beq_iff h.ne_nan_least h.ne_nan_least).mpr rfl⟩
  · rcases List.mem_cons.mp h.greatest.mem with hstart | hmem
    · have hle := h.value_le_greatest hw
      refine ⟨w, hw, (beq_iff (hvs w hw) h.ne_nan_greatest).mpr (le_antisymm hle ?_)⟩
      rw [hstart, value_greatest_empty]
      exact hbound.1
    · exact ⟨_, hmem, (beq_iff h.ne_nan_greatest h.ne_nan_greatest).mpr rfl⟩

lemma Spans.same (h : e.Spans vs) (h' : e'.Spans ws) (hp : vs.Perm ws) : e.Same e' where
  least := (beq_iff h.ne_nan_least h'.ne_nan_least).mpr (h.least.eq_of_perm h'.least (hp.cons _))
  greatest := (beq_iff h.ne_nan_greatest h'.ne_nan_greatest).mpr
    (neg_inj.mp (h.greatest.eq_of_perm h'.greatest (hp.cons _)))

end Extent

namespace Bounds

def ofPositions (ps : List Position) : Bounds := ps.foldl update empty

structure Tight (b : Bounds) (ps : List Position) : Prop where
  x : b.x.Tight (ps.map (·.x))
  y : b.y.Tight (ps.map (·.y))
  z : b.z.Tight (ps.map (·.z))

structure Same (b b' : Bounds) : Prop where
  x : b.x.Same b'.x
  y : b.y.Same b'.y
  z : b.z.Same b'.z

def finitePositions (ps : List Position) : List Position := ps.filter Position.isFinite

structure Spans (b : Bounds) (ps : List Position) : Prop where
  x : b.x.Spans (ps.map (·.x))
  y : b.y.Spans (ps.map (·.y))
  z : b.z.Spans (ps.map (·.z))

lemma Spans.update {b : Bounds} {ps : List Position} (h : b.Spans (finitePositions ps)) (p : Position) :
    (b.update p).Spans (finitePositions (ps ++ [p])) := by
  rw [finitePositions, List.filter_append, ← finitePositions, Bounds.update]
  by_cases hp : p.isFinite
  · obtain ⟨hxy, hz⟩ := Bool.and_eq_true_iff.mp hp
    obtain ⟨hx, hy⟩ := Bool.and_eq_true_iff.mp hxy
    rw [if_pos hp, List.filter_cons_of_pos hp, List.filter_nil]
    constructor <;> rw [List.map_append]
    · exact h.x.insert hx
    · exact h.y.insert hy
    · exact h.z.insert hz
  · rw [if_neg hp, List.filter_cons_of_neg hp, List.filter_nil, List.append_nil]
    exact h

lemma spans_ofPositions (ps : List Position) : (ofPositions ps).Spans (finitePositions ps) := by
  induction ps using List.reverseRecOn with
  | nil => exact ⟨.empty, .empty, .empty⟩
  | append_singleton ps p ih =>
    rw [ofPositions, List.foldl_concat]
    exact ih.update p

namespace Spans

variable {b b' : Bounds} {ps qs : List Position}

lemma isValid_iff (h : b.Spans ps) : b.isValid ↔ ps ≠ [] := by
  rw [isValid, Bool.and_eq_true, Bool.and_eq_true, h.x.isProper_iff, h.y.isProper_iff, h.z.isProper_iff]
  simp

lemma tight (h : b.Spans ps) (hne : ps ≠ []) : b.Tight ps where
  x := h.x.tight (by simpa using hne)
  y := h.y.tight (by simpa using hne)
  z := h.z.tight (by simpa using hne)

lemma same (h : b.Spans ps) (h' : b'.Spans qs) (hp : ps.Perm qs) : b.Same b' where
  x := h.x.same h'.x (hp.map _)
  y := h.y.same h'.y (hp.map _)
  z := h.z.same h'.z (hp.map _)

end Spans

end Bounds

open Bounds

lemma bounds_project (r : Trace) (f : Transform) : (project r f).bounds =
    if (ofPositions ((drawn r).map (·.position))).isValid then some (ofPositions ((drawn r).map (·.position)))
    else none := by
  rw [ofPositions, List.foldl_map]
  rfl

/-- A scene has bounds if and only if a node up to the first line that asks for relative coordinates has a finite
position, and they are tight for these nodes. Positions in any order have the same bounds. -/
theorem bounds_tight :
    (∀ (t : Text) (f : Transform),
      let ns := (trace t).nodes.filter fun n => ((Text.lines t).findIdx? asksRelative).all (n.line ≤ ·)
      ((project (trace t) f).bounds.isSome ↔ ∃ n ∈ ns, n.position.isFinite) ∧
        ∀ b ∈ (project (trace t) f).bounds, b.Tight (finitePositions (ns.map (·.position)))) ∧
      ∀ ps qs : List Position, ps.Perm qs → (ofPositions ps).Same (ofPositions qs) := by
  constructor
  · intro t f ns
    have hns : ns = drawn (trace t) := by rw [drawn_eq_filter, relativeLine_trace]
    have hspans := spans_ofPositions (ns.map (·.position))
    have hne : finitePositions (ns.map (·.position)) ≠ [] ↔ ∃ n ∈ ns, n.position.isFinite := by
      simp [finitePositions, List.filter_eq_nil_iff]
    rw [bounds_project, ← hns]
    by_cases hvalid : (ofPositions (ns.map (·.position))).isValid
    · rw [if_pos hvalid]
      rw [hspans.isValid_iff] at hvalid
      refine ⟨by simpa using hne.mp hvalid, fun b hb => ?_⟩
      obtain rfl := Option.some.inj hb
      exact hspans.tight hvalid
    · rw [if_neg hvalid]
      rw [hspans.isValid_iff, hne] at hvalid
      exact ⟨by simpa using hvalid, nofun⟩
  · intro ps qs hp
    exact (spans_ofPositions ps).same (spans_ofPositions qs) (hp.filter _)

theorem bounds_tight_mixed :
    let t := "G1 X1 Y-2 Z5\nG1 Xbad Z9\nG1 X-3 Y4 Z-0\nG91\nG1 X100".toList
    let ns := (trace t).nodes.filter fun n => ((Text.lines t).findIdx? asksRelative).all (n.line ≤ ·)
    let b : Bounds := ⟨⟨Float.ofInt (-3), Float.ofNat 1⟩, ⟨Float.ofInt (-2), Float.ofNat 4⟩, ⟨-Float.ofNat 0, Float.ofNat 5⟩⟩
    let p : Position := ⟨-Float.ofNat 0, Float.ofNat 7, Float.ofNat 0⟩
    (b ∈ (project (trace t) .default).bounds ∧ b.Tight (finitePositions (ns.map (·.position)))) ∧
      [.origin, p].Perm [p, .origin] ∧ ofPositions [.origin, p] ≠ ofPositions [p, .origin] ∧
        (ofPositions [.origin, p]).Same (ofPositions [p, .origin]) := by
  intro t ns b p
  have hb : b ∈ (project (trace t) .default).bounds := by decide +kernel
  have hp : [.origin, p].Perm [p, .origin] := by decide +kernel
  exact ⟨⟨hb, (bounds_tight.1 t .default).2 b hb⟩, hp, by decide +kernel, bounds_tight.2 _ _ hp⟩

end Toolpath.Scene
