import Mathlib.Order.Bounds.Basic
import Toolpath.Proofs.Number.Order
import Toolpath.Scene.Pointer

/-!
What is hit is the first of the nearest clusters within reach.
-/

namespace Toolpath.Scene

open Number

structure FirstNearest (ds : List Float) (reach : Float) (k : ℕ) (d : Float) : Prop where
  get : ds[k]? = some d
  within : d ≤ reach
  least : ∀ (j : ℕ) d', ds[j]? = some d' → d' ≤ reach → ¬ d' < d
  first : ∀ j < k, ∀ d', ds[j]? = some d' → d' ≤ reach → d < d'

namespace FirstNearest

variable {ds : List Float} {reach d d' : Float} {k k' : ℕ}

lemma le_of_firstNearest (h : FirstNearest ds reach k d) (h' : FirstNearest ds reach k' d') : k ≤ k' := by
  by_contra hlt
  exact h'.least k d h.get h.within (h.first k' (not_le.mp hlt) d' h'.get h'.within)

lemma unique (h : FirstNearest ds reach k d) (h' : FirstNearest ds reach k' d') : k = k' :=
  le_antisymm (h.le_of_firstNearest h') (h'.le_of_firstNearest h)

end FirstNearest

def closer (reach : Float) (best : Option (ℕ × Float)) (i : ℕ) (d : Float) : Option (ℕ × Float) :=
  if d ≤ reach then nearer best i d else best

def IsBest (ds : List Float) (reach : Float) : Option (ℕ × Float) → Prop
  | none => ∀ d ∈ ds, ¬ d ≤ reach
  | some (k, d) => FirstNearest ds reach k d

lemma getElem?_concat_eq_some {ds : List Float} {d e : Float} {j : ℕ} :
    (ds ++ [d])[j]? = some e ↔ ds[j]? = some e ∨ j = ds.length ∧ d = e := by
  rcases lt_trichotomy j ds.length with h | rfl | h
  · simp [List.getElem?_append_left h, h.ne]
  · simp
  · simp [List.getElem?_eq_none h.le, h.ne', h]

lemma IsBest.concat_of_beyond {ds : List Float} {reach d : Float} {best : Option (ℕ × Float)} (h : IsBest ds reach best)
    (hd : ¬ d ≤ reach) : IsBest (ds ++ [d]) reach best := by
  cases best with
  | none => exact List.forall_mem_append.mpr ⟨h, List.forall_mem_singleton.mpr hd⟩
  | some b =>
    obtain ⟨k, e⟩ := b
    have hf : FirstNearest ds reach k e := h
    have hold : ∀ {j : ℕ} {d'}, (ds ++ [d])[j]? = some d' → d' ≤ reach → ds[j]? = some d' := fun hj hle => by
      rcases getElem?_concat_eq_some.mp hj with hj | ⟨-, rfl⟩
      · exact hj
      · exact absurd hle hd
    exact ⟨getElem?_concat_eq_some.mpr (.inl hf.get), hf.within, fun j d' hj hle => hf.least j d' (hold hj hle) hle,
      fun j hjk d' hj hle => hf.first j hjk d' (hold hj hle) hle⟩

lemma firstNearest_concat {ds : List Float} {reach d : Float} (hd : d ≤ reach)
    (h : ∀ d' ∈ ds, d' ≤ reach → d < d') : FirstNearest (ds ++ [d]) reach ds.length d := by
  refine ⟨getElem?_concat_eq_some.mpr (.inr ⟨rfl, rfl⟩), hd, fun j d' hj hle => ?_, fun j hjk d' hj hle => ?_⟩
  · rcases getElem?_concat_eq_some.mp hj with hj | ⟨-, rfl⟩
    · exact not_lt_of_lt (h d' (List.mem_of_getElem? hj) hle)
    · exact not_lt_self _
  · rcases getElem?_concat_eq_some.mp hj with hj | ⟨rfl, -⟩
    · exact h d' (List.mem_of_getElem? hj) hle
    · exact absurd hjk (lt_irrefl _)

lemma FirstNearest.concat {ds : List Float} {reach d e : Float} {k : ℕ} (h : FirstNearest ds reach k e) (hd : ¬ d < e) :
    FirstNearest (ds ++ [d]) reach k e := by
  have hk := (List.getElem?_eq_some_iff.mp h.get).1
  refine ⟨getElem?_concat_eq_some.mpr (.inl h.get), h.within, fun j d' hj hle => ?_, fun j hjk d' hj hle => ?_⟩ <;>
    rcases getElem?_concat_eq_some.mp hj with hj | ⟨rfl, rfl⟩
  · exact h.least j d' hj hle
  · exact hd
  · exact h.first j hjk d' hj hle
  · exact absurd (hjk.trans hk) (lt_irrefl _)

lemma IsBest.concat {ds : List Float} {reach : Float} {best : Option (ℕ × Float)} (h : IsBest ds reach best) (d : Float) :
    IsBest (ds ++ [d]) reach (closer reach best ds.length d) := by
  rw [closer]
  split
  · rename_i hd
    cases best with
    | none => exact firstNearest_concat hd fun d' hd' hle => absurd hle (h d' hd')
    | some b =>
      obtain ⟨k, e⟩ := b
      have hf : FirstNearest ds reach k e := h
      rw [nearer]
      split
      · rename_i hlt
        refine firstNearest_concat hd fun d' hd' hle => ?_
        obtain ⟨j, hj⟩ := List.mem_iff_getElem?.mp hd'
        have hleast := hf.least j d' hj hle
        rw [lt_iff (ne_nan_of_le hle) (ne_nan_of_le hf.within), not_lt] at hleast
        rw [lt_iff (ne_nan_of_le hd) (ne_nan_of_le hf.within)] at hlt
        rw [lt_iff (ne_nan_of_le hd) (ne_nan_of_le hle)]
        exact hlt.trans_le hleast
      · rename_i hge
        exact hf.concat hge
  · rename_i hd
    exact h.concat_of_beyond hd

lemma isBest_foldl (p : Point) (clusters : List Cluster) (reach : Float) :
    IsBest (clusters.map (p.distance ·.center)) reach (clusters.zipIdx.foldl (fun best (c, i) =>
      closer reach best i (p.distance c.center)) none) := by
  induction clusters using List.reverseRecOn with
  | nil => exact nofun
  | append_singleton cs c ih =>
    have h := ih.concat (p.distance c.center)
    rw [List.length_map] at h
    rw [List.zipIdx_append, List.foldl_append, List.map_append]
    simpa using h

lemma exists_isBest (p : Point) (clusters : List Cluster) (reach : Float) :
    ∃ best, IsBest (clusters.map (p.distance ·.center)) reach best ∧ nearest? p clusters reach = best.map (·.1) :=
  ⟨_, isBest_foldl p clusters reach, rfl⟩

theorem nearest?_eq_some_iff {p : Point} {clusters : List Cluster} {reach : Float} {k : ℕ} :
    nearest? p clusters reach = some k ↔ ∃ d, FirstNearest (clusters.map (p.distance ·.center)) reach k d := by
  obtain ⟨best, h, hnearest⟩ := exists_isBest p clusters reach
  rw [hnearest]
  cases best with
  | none =>
    refine iff_of_false nofun ?_
    rintro ⟨d, hd⟩
    exact h d (List.mem_of_getElem? hd.get) hd.within
  | some b =>
    obtain ⟨j, d⟩ := b
    have hf : FirstNearest _ reach j d := h
    constructor
    · rintro ⟨⟩
      exact ⟨d, hf⟩
    · rintro ⟨d', hd'⟩
      exact congrArg some (hf.unique hd')

section

variable {p : Point} {clusters : List Cluster} {reach : Float} {k : ℕ}

lemma nearest?_eq_none_iff : nearest? p clusters reach = none ↔ ∀ c ∈ clusters, ¬ p.distance c.center ≤ reach := by
  constructor
  · intro h c hc
    obtain ⟨best, hbest, hnearest⟩ := exists_isBest p clusters reach
    obtain rfl := Option.map_eq_none_iff.mp (hnearest.symm.trans h)
    exact hbest _ (List.mem_map_of_mem hc)
  · intro h
    rw [Option.eq_none_iff_forall_ne_some]
    intro k hk
    obtain ⟨d, hd⟩ := nearest?_eq_some_iff.mp hk
    obtain ⟨c, hc, rfl⟩ := List.mem_map.mp (List.mem_of_getElem? hd.get)
    exact h c hc hd.within

/-- The places of the clusters within reach to which no cluster within reach is closer. -/
def nearestPlaces (p : Point) (clusters : List Cluster) (reach : Float) : Set ℕ :=
  {i | ∃ c, clusters[i]? = some c ∧ p.distance c.center ≤ reach ∧
    ∀ c' ∈ clusters, p.distance c'.center ≤ reach → ¬ p.distance c'.center < p.distance c.center}

lemma FirstNearest.isLeast {d : Float} (h : FirstNearest (clusters.map (p.distance ·.center)) reach k d) :
    IsLeast (nearestPlaces p clusters reach) k := by
  have hget : ∀ {j : ℕ} {c}, clusters[j]? = some c → (clusters.map (p.distance ·.center))[j]? = some (p.distance c.center) :=
    fun hj => by rw [List.getElem?_map, hj, Option.map_some]
  obtain ⟨c, hc, rfl⟩ := Option.map_eq_some_iff.mp (List.getElem?_map .. ▸ h.get)
  refine ⟨⟨c, hc, h.within, fun c' hc' hle => ?_⟩, ?_⟩
  · obtain ⟨j, hj⟩ := List.mem_iff_getElem?.mp hc'
    exact h.least j _ (hget hj) hle
  · rintro j ⟨c', hj, hle, hleast⟩
    by_contra hlt
    exact hleast c (List.mem_of_getElem? hc) h.within (h.first j (not_le.mp hlt) _ (hget hj) hle)

lemma nearest?_eq_some_iff_isLeast : nearest? p clusters reach = some k ↔ IsLeast (nearestPlaces p clusters reach) k := by
  constructor
  · intro h
    obtain ⟨d, hd⟩ := nearest?_eq_some_iff.mp h
    exact hd.isLeast
  · intro h
    obtain ⟨c, hc, hle, -⟩ := h.1
    cases hn : nearest? p clusters reach with
    | none => exact absurd hle (nearest?_eq_none_iff.mp hn c (List.mem_of_getElem? hc))
    | some j =>
      obtain ⟨d, hd⟩ := nearest?_eq_some_iff.mp hn
      rw [hd.isLeast.unique h]

/-- How a hit names the cluster at a place: an overlap by the place, any other by its lowest member, where one without
members counts as the node 0. -/
def Cluster.hitAt (c : Cluster) (i : ℕ) : Hit :=
  if 1 < c.members.length then .cluster i else .node (c.members.min?.getD 0)

lemma Cluster.hitAt_eq (c : Cluster) (i : ℕ) : c.hitAt i = if c.isOverlap then .cluster i else .node c.label := by
  obtain ⟨key, center, members⟩ := c
  rcases members with _ | ⟨n, _ | ⟨m, ns⟩⟩
  · rfl
  · rfl
  · simp [hitAt, isOverlap]

lemma resolveHit_eq_some_iff_isLeast {x : Hit} : resolveHit p clusters reach = some x ↔
    ∃ i c, IsLeast (nearestPlaces p clusters reach) i ∧ clusters[i]? = some c ∧ c.hitAt i = x := by
  simp only [resolveHit_eq_some_iff, nearest?_eq_some_iff_isLeast, Cluster.hitAt_eq]

lemma exists_of_nearest? (h : nearest? p clusters reach = some k) : ∃ c, clusters[k]? = some c := by
  obtain ⟨c, hc, -⟩ := (nearest?_eq_some_iff_isLeast.mp h).1
  exact ⟨c, hc⟩

/-- Nothing is hit if and only if no cluster is within reach, and otherwise the first of the clusters within reach to
which no other is closer. -/
theorem resolveHit_nearest (p : Point) (clusters : List Cluster) (reach : Float) :
    (resolveHit p clusters reach = none ↔ ∀ c ∈ clusters, ¬ p.distance c.center ≤ reach) ∧
    ∀ x, resolveHit p clusters reach = some x ↔
      ∃ i c, IsLeast (nearestPlaces p clusters reach) i ∧ clusters[i]? = some c ∧ c.hitAt i = x := by
  refine ⟨?_, fun x => resolveHit_eq_some_iff_isLeast⟩
  rw [← nearest?_eq_none_iff, Option.eq_none_iff_forall_ne_some, Option.eq_none_iff_forall_ne_some]
  constructor
  · intro h i hi
    obtain ⟨c, hc⟩ := exists_of_nearest? hi
    exact h _ (resolveHit_eq_some_iff.mpr ⟨i, c, hi, hc, rfl⟩)
  · intro h x hx
    obtain ⟨i, -, hi, -⟩ := resolveHit_eq_some_iff.mp hx
    exact h i hi

end

end Toolpath.Scene
