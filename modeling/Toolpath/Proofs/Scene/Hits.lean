import Toolpath.Proofs.Scene.Cutoff
import Toolpath.Proofs.Scene.Grouping
import Toolpath.Proofs.Scene.OpenRing

/-!
What can be hit. A cluster holds nodes of the scene and at least one of them, a ring shows the members of
its cluster, and so a click selects a node that is drawn.
-/

namespace Toolpath.Scene

open Program

namespace Cluster

structure Gathers (c : Cluster) (ns : List Nat) : Prop where
  nonempty : c.members ≠ []
  subset : c.members ⊆ ns

lemma Gathers.label_mem {c : Cluster} {ns : List Nat} (h : c.Gathers ns) : c.label ∈ c.members := by
  obtain ⟨n, ms, hm⟩ := List.exists_cons_of_ne_nil h.nonempty
  rw [label, hm]
  exact List.mem_cons_self

lemma gathers_ofDots (dots : List Dot) : ∀ c ∈ ofDots dots, c.Gathers (dots.map (·.node)) := by
  intro c hc
  refine ⟨members_ne_nil hc, fun n hn => ?_⟩
  have hn := (members_perm hc).mem_iff.mp hn
  exact ((List.filter_sublist).map _).mem hn

end Cluster

lemma getElem?_index_of_mem_drawn {t : Text} {n : Node} (h : n ∈ drawn (trace t)) :
    (trace t).nodes[n.index]? = some n := by
  obtain ⟨i, hi⟩ := List.mem_iff_getElem?.mp ((drawn_begins t).subset h)
  rwa [index_of_getElem?_nodes hi]

lemma lt_of_mem_members {t : Text} {f : Transform} {c : Cluster} (hc : c ∈ (project (trace t) f).clusters) {n : Nat}
    (hn : n ∈ c.members) : n < (trace t).nodes.length := by
  have hdots : n ∈ (project (trace t) f).dots.map (·.node) := (Cluster.gathers_ofDots _ c hc).subset hn
  obtain ⟨m, hm, rfl⟩ := mem_shownNodes (List.mem_append_left _ hdots)
  exact (List.getElem?_eq_some_iff.mp (getElem?_index_of_mem_drawn hm)).1

lemma mem_members_of_mem_ring {c : Cluster} {radius : Float} {x : SubNode} (h : x ∈ ring c radius) :
    x.node ∈ c.members := by
  obtain ⟨⟨n, i⟩, hn, rfl⟩ := List.mem_map.mp h
  exact List.fst_mem_of_mem_zipIdx hn

namespace Pointer

variable {p : Pointer} {clusters : List Cluster} {spot : Point} {n : Nat}

lemma Fits.mem_of_subNodeAt? (h : p.Fits clusters) (hn : p.subNodeAt? spot = some n) :
    ∃ c ∈ clusters, n ∈ c.members := by
  simp only [subNodeAt?, Option.bind_eq_bind, Option.bind_eq_some_iff] at hn
  obtain ⟨e, he, x, hx, hn⟩ := hn
  obtain rfl : x.node = n := Option.some.inj hn
  obtain ⟨c, hc, -, -, -, hring⟩ := h e he
  exact ⟨c, hc, mem_members_of_mem_ring (hring ▸ List.mem_of_find?_eq_some hx)⟩

lemma label_of_clickClosed (h : (p.clickClosed spot clusters).1 = .selectNode n) : ∃ c ∈ clusters, c.label = n := by
  rw [clickClosed] at h
  split at h
  · rename_i m hm
    obtain rfl : m = n := Click.selectNode.inj h
    exact resolveHit_node hm
  · split at h <;> cases h
  · cases h

lemma Fits.mem_of_click {ns : List Nat} (h : p.Fits clusters) (hc : ∀ c ∈ clusters, c.Gathers ns)
    (hn : (p.click spot clusters).1 = .selectNode n) : ∃ c ∈ clusters, n ∈ c.members := by
  have hclosed : ∀ q : Pointer, (q.clickClosed spot clusters).1 = .selectNode n → ∃ c ∈ clusters, n ∈ c.members := by
    intro q hq
    obtain ⟨c, hcs, rfl⟩ := label_of_clickClosed hq
    exact ⟨c, hcs, (hc c hcs).label_mem⟩
  rw [Pointer.click] at hn
  split at hn
  · exact hclosed _ hn
  · split at hn
    · cases hn
    · split at hn
      · rename_i m hm
        obtain rfl : m = n := Click.selectNode.inj hn
        exact h.mem_of_subNodeAt? hm
      · split at hn
        · cases hn
        · exact hclosed _ hn

end Pointer

end Toolpath.Scene
