import Mathlib.Tactic.Lemma
import Toolpath.Scene.Pointer

/-!
The open ring is always the ring of a cluster on the scene: opening takes it from there, a new scene
makes it anew or drops it, and nothing else changes it.
-/

namespace Toolpath.Scene

/-- What is open belongs to an overlapping cluster of the scene, with the ring of that cluster. -/
def Pointer.Fits (p : Pointer) (clusters : List Cluster) : Prop :=
  ∀ e, p.expanded = some e → ∃ c ∈ clusters, c.key = e.key ∧ 1 < c.members.length ∧
    c.center = e.center ∧ ring c p.radii.ring = e.subNodes

lemma resolveHit_cluster {p : Point} {clusters : List Cluster} {radius : Float} {i : Nat}
    (h : resolveHit p clusters radius = some (.cluster i)) :
    ∃ c, clusters[i]? = some c ∧ c.isOverlap := by
  obtain ⟨j, c, -, hc, hx⟩ := resolveHit_eq_some_iff.mp h
  split at hx
  · rename_i ho
    cases hx
    exact ⟨c, hc, ho⟩
  · cases hx

lemma resolveHit_node {p : Point} {clusters : List Cluster} {radius : Float} {n : Nat}
    (h : resolveHit p clusters radius = some (.node n)) : ∃ c ∈ clusters, c.label = n := by
  obtain ⟨j, c, -, hc, hx⟩ := resolveHit_eq_some_iff.mp h
  split at hx
  · cases hx
  · cases hx
    exact ⟨c, List.mem_of_getElem? hc, rfl⟩

namespace Pointer

variable {p : Pointer} {clusters : List Cluster}

@[simp] lemma radii_retain : (p.retain clusters).radii = p.radii := by
  rw [retain]
  cases p.expanded with
  | none => rfl
  | some e => dsimp only; split <;> rfl

@[simp] lemma radii_move (spot : Point) : (p.move spot clusters).2.radii = p.radii := by
  rw [move]
  split
  · rfl
  · split
    · split <;> rfl
    · rfl

@[simp] lemma radii_clickClosed (spot : Point) : (p.clickClosed spot clusters).2.radii = p.radii := by
  rw [clickClosed]
  split
  · rfl
  · split <;> rfl
  · rfl

@[simp] lemma radii_click (spot : Point) : (p.click spot clusters).2.radii = p.radii := by
  rw [click]
  split
  · exact radii_clickClosed spot
  · split
    · rfl
    · split
      · rfl
      · have h : (clickClosed { p with expanded := none } spot clusters).2.radii = p.radii :=
          radii_clickClosed spot
        split
        · rename_i hc
          simpa [hc] using h
        · exact h

lemma fits_of_closed (h : p.expanded = none) : p.Fits clusters := by
  intro e he
  rw [h] at he
  cases he

lemma fits_expand {c : Cluster} (hc : c ∈ clusters) (ho : c.isOverlap) : (p.expand c).Fits clusters := by
  rintro e ⟨⟩
  exact ⟨c, hc, rfl, of_decide_eq_true ho, rfl, rfl⟩

lemma fits_retain (p : Pointer) (clusters : List Cluster) : (p.retain clusters).Fits clusters := by
  rw [retain]
  cases hp : p.expanded with
  | none => exact fits_of_closed hp
  | some e =>
    dsimp only
    split
    · rename_i c hc
      have ho := List.find?_some hc
      simp only [Bool.and_eq_true] at ho
      exact fits_expand (List.mem_of_find?_eq_some hc) ho.2
    · exact fits_of_closed rfl

lemma Fits.move (h : p.Fits clusters) (spot : Point) : (p.move spot clusters).2.Fits clusters := by
  rw [Pointer.move]
  split
  · exact h
  · split
    · split
      · exact h
      · exact fits_of_closed rfl
    · exact h

lemma Fits.clickClosed (h : p.Fits clusters) (spot : Point) :
    (p.clickClosed spot clusters).2.Fits clusters := by
  rw [Pointer.clickClosed]
  split
  · exact h
  · rename_i i hi
    obtain ⟨c, hc, ho⟩ := resolveHit_cluster hi
    simp only [hc]
    exact fits_expand (List.mem_of_getElem? hc) ho
  · exact h

lemma Fits.click (h : p.Fits clusters) (spot : Point) : (p.click spot clusters).2.Fits clusters := by
  rw [Pointer.click]
  split
  · exact h.clickClosed spot
  · split
    · exact fits_of_closed rfl
    · split
      · exact h
      · have hf : Pointer.Fits { p with expanded := none } clusters := fits_of_closed rfl
        have hh := hf.clickClosed spot
        split
        · rename_i hc
          simpa [hc] using hh
        · exact hh

end Pointer

end Toolpath.Scene
