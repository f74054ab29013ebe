import Toolpath.Proofs.Scene.FirstNearest
import Toolpath.Proofs.Scene.Labelling

/-!
Hovering. A hit on a single node does not say which cluster it is, but no two clusters share a node, so the one that
begins with the node is the one that was hit; and so the ring closes just when another cluster is nearest.
-/

namespace Toolpath.Scene

open Program

lemma Cluster.head?_members {dots : List Dot} {c : Cluster} (hc : c ∈ ofDots dots) : c.members.head? = some c.label := by
  obtain ⟨n, ns, hm⟩ := List.exists_cons_of_ne_nil (members_ne_nil hc)
  rw [label, hm]
  rfl

namespace Numbered

variable {dots : List Dot} (h : Numbered dots)

include h

lemma find?_label {c : Cluster} (hc : c ∈ Cluster.ofDots dots) :
    (Cluster.ofDots dots).find? (fun c' => c'.members.head? = some c.label) = some c := by
  have hsome : ((Cluster.ofDots dots).find? fun c' => c'.members.head? = some c.label).isSome :=
    List.find?_isSome.mpr ⟨c, hc, decide_eq_true (Cluster.head?_members hc)⟩
  obtain ⟨c', hc'⟩ := Option.isSome_iff_exists.mp hsome
  have hhead : c'.members.head? = some c.label := by simpa using List.find?_some hc'
  have hmem := List.mem_of_find?_eq_some hc'
  -- The search could stop earlier only at a cluster that shares the node.
  obtain rfl := h.cluster_unique hmem hc (List.mem_of_head? hhead) (List.mem_of_head? (Cluster.head?_members hc))
  exact hc'

lemma hitCluster?_of_hit {c : Cluster} {i : ℕ} (hc : (Cluster.ofDots dots)[i]? = some c) :
    Pointer.hitCluster? (Cluster.ofDots dots) (if c.isOverlap then .cluster i else .node c.label) = some c := by
  split
  · exact hc
  · exact h.find?_label (List.mem_of_getElem? hc)

lemma bind_hitCluster?_eq_some_iff {spot : Point} {reach : Float} {c : Cluster} :
    (resolveHit spot (Cluster.ofDots dots) reach).bind (Pointer.hitCluster? (Cluster.ofDots dots)) = some c ↔
      ∃ i, nearest? spot (Cluster.ofDots dots) reach = some i ∧ (Cluster.ofDots dots)[i]? = some c := by
  simp only [Option.bind_eq_some_iff, resolveHit_eq_some_iff]
  constructor
  · rintro ⟨x, ⟨i, c', hi, hc', rfl⟩, hc⟩
    rw [h.hitCluster?_of_hit hc'] at hc
    exact ⟨i, hi, hc'.trans hc⟩
  · rintro ⟨i, hi, hc⟩
    exact ⟨_, ⟨i, c, hi, hc, rfl⟩, h.hitCluster?_of_hit hc⟩

end Numbered

namespace Pointer

variable {p : Pointer} {spot : Point} {clusters : List Cluster}

lemma move_fst_iff : (p.move spot clusters).1 ↔
    ∃ e c, p.expanded = some e ∧ (p.hit spot clusters).bind (hitCluster? clusters) = some c ∧ c.key ≠ e.key := by
  rw [move]
  cases p.expanded with
  | none => simp
  | some e =>
    cases (p.hit spot clusters).bind (hitCluster? clusters) with
    | none => simp
    | some c => by_cases hk : c.key = e.key <;> simp [hk]

lemma move_snd : (p.move spot clusters).2 = if (p.move spot clusters).1 then ⟨p.radii, none⟩ else p := by
  rw [move]
  cases p.expanded with
  | none => rfl
  | some e =>
    cases (p.hit spot clusters).bind (hitCluster? clusters) with
    | none => rfl
    | some c => by_cases hk : c.key = e.key <;> simp [hk]

/-- On the scene of a program, moving closes the open ring if and only if the cluster that is hit, the first of the
nearest ones, has another key than the ring; nothing changes otherwise. -/
theorem move_closes_iff (t : Text) (f : Transform) (p : Pointer) (spot : Point) :
    let clusters := (project (trace t) f).clusters
    ((p.move spot clusters).1 ↔ ∃ e i c, p.expanded = some e ∧ IsLeast (nearestPlaces spot clusters p.radii.hit) i ∧
      clusters[i]? = some c ∧ c.key ≠ e.key) ∧
    (∀ x, p.hit spot clusters = some x ↔ ∃ i c, IsLeast (nearestPlaces spot clusters p.radii.hit) i ∧
      clusters[i]? = some c ∧ c.hitAt i = x) ∧
    (p.move spot clusters).2 = if (p.move spot clusters).1 then ⟨p.radii, none⟩ else p := by
  intro clusters
  refine ⟨?_, fun x => resolveHit_eq_some_iff_isLeast, move_snd⟩
  rw [move_fst_iff]
  constructor
  · rintro ⟨e, c, he, hhit, hkey⟩
    obtain ⟨i, hi, hc⟩ := (numbered_project t f).bind_hitCluster?_eq_some_iff.mp hhit
    exact ⟨e, i, c, he, nearest?_eq_some_iff_isLeast.mp hi, hc, hkey⟩
  · rintro ⟨e, i, c, he, hi, hc, hkey⟩
    have hhit := (numbered_project t f).bind_hitCluster?_eq_some_iff.mpr ⟨i, nearest?_eq_some_iff_isLeast.mpr hi, hc⟩
    exact ⟨e, c, he, hhit, hkey⟩

end Pointer

end Toolpath.Scene
