import Mathlib.Data.List.Chain
import Toolpath.Proofs.Scene.Grouping
import Toolpath.Proofs.Scene.Cutoff

/-!
The scene is one connected drawing with a label on every cluster. Its edges lead from the origin through the
dots in order, and each cluster is marked at the place of its lowest node.
-/

namespace Toolpath.Program

lemma takeWhile_line_le {ns : List Node} (h : ns.Pairwise (·.line < ·.line)) (line : Nat) :
    (ns.takeWhile fun n => n.line ≤ line) = ns.filter fun n => n.line ≤ line := by
  induction h with
  | nil => rfl
  | @cons n ns hn _ ih =>
    by_cases hle : n.line ≤ line
    · simp [hle, ih]
    · have hrest : ∀ m ∈ ns, ¬ m.line ≤ line := fun m hm hm' => hle (Nat.le_trans (Nat.le_of_lt (hn m hm)) hm')
      simpa [hle] using hrest

lemma drawn_eq_filter (t : Text) :
    Scene.drawn (trace t) = (trace t).nodes.filter fun n => (trace t).relativeLine.all (n.line ≤ ·) := by
  rw [Scene.drawn]
  cases (trace t).relativeLine with
  | none => simp
  | some line => exact takeWhile_line_le (pairwise_line_trace t) line

end Toolpath.Program

namespace Toolpath.Scene

open Program

section

variable (f : Transform) (p : Position) (ns : List Node)

lemma start_segmentsFrom : ∀ s ∈ (segmentsFrom f p ns).head?, s.start = f.toScreen p := by
  cases ns <;> simp [segmentsFrom]

lemma isChain_segmentsFrom : (segmentsFrom f p ns).IsChain fun s s' => s'.start = s.finish := by
  induction ns generalizing p with
  | nil => exact List.isChain_nil
  | cons n ns ih =>
    apply List.isChain_cons.mpr
    exact ⟨start_segmentsFrom f n.position ns, ih n.position⟩

lemma length_segmentsFrom : (segmentsFrom f p ns).length = ns.length := by
  simpa using congrArg List.length (map_segmentsFrom f p ns)

end

def Numbered (dots : List Dot) : Prop := ∀ i (d : Dot), dots[i]? = some d → d.node = i

lemma isSome_pixel? (d : Dot) : d.pixel?.isSome = d.screen.isFinite := by
  rw [Dot.pixel?, Pixel.ofPoint?]
  split <;> simp_all

namespace Numbered

variable {dots : List Dot} (h : Numbered dots)

include h

lemma getElem?_eq_some {n : Nat} {d : Dot} : dots[n]? = some d ↔ d ∈ dots ∧ d.node = n := by
  constructor
  · intro hd
    exact ⟨List.mem_of_getElem? hd, h n d hd⟩
  · rintro ⟨hd, rfl⟩
    obtain ⟨i, hi⟩ := List.mem_iff_getElem?.mp hd
    rwa [h i d hi]

lemma find?_eq (n : Nat) : dots.find? (·.node = n) = dots[n]? := by
  cases hd : dots[n]? with
  | none =>
    rw [List.find?_eq_none]
    intro d hd' he
    have hn := h.getElem?_eq_some.mpr ⟨hd', of_decide_eq_true he⟩
    rw [hd] at hn
    cases hn
  | some d =>
    obtain ⟨hn, rfl⟩ := List.getElem?_eq_some_iff.mp hd
    rw [List.find?_eq_some_iff_getElem]
    refine ⟨decide_eq_true (h n _ hd), n, hn, rfl, fun j hj => ?_⟩
    have hj' := h j _ (List.getElem?_eq_getElem (Nat.lt_trans hj hn))
    simpa [hj'] using Nat.ne_of_lt hj

lemma mem_nodesAt {k : Pixel} {n : Nat} : n ∈ nodesAt dots k ↔ ∃ d, dots[n]? = some d ∧ d.pixel? = some k := by
  simp only [nodesAt, List.mem_map, List.mem_filter, decide_eq_true_eq, h.getElem?_eq_some, and_right_comm]

lemma cluster_unique {c c' : Cluster} (hc : c ∈ Cluster.ofDots dots) (hc' : c' ∈ Cluster.ofDots dots) {n : Nat}
    (hn : n ∈ c.members) (hn' : n ∈ c'.members) : c = c' := by
  obtain ⟨d, hd, hk⟩ := h.mem_nodesAt.mp ((Cluster.members_perm hc).mem_iff.mp hn)
  obtain ⟨d', hd', hk'⟩ := h.mem_nodesAt.mp ((Cluster.members_perm hc').mem_iff.mp hn')
  have hkey : c.key = c'.key := by
    rw [hd, Option.some.injEq] at hd'
    rw [← hd', hk, Option.some.injEq] at hk'
    exact hk'
  rw [(Cluster.mem_ofDots.mp hc).2, (Cluster.mem_ofDots.mp hc').2, hkey]

lemma exists_cluster_iff (n : Nat) :
    (∃ c ∈ Cluster.ofDots dots, n ∈ c.members) ↔ ∃ d, dots[n]? = some d ∧ d.screen.isFinite := by
  rw [← List.mem_flatMap, (Cluster.perm_ofDots dots).mem_iff]
  simp only [List.mem_map, List.mem_filter, isSome_pixel?, h.getElem?_eq_some, and_right_comm]

end Numbered

/-- The marker stands at the lowest node of the cluster numbered `k`. -/
structure Marker.Marks (m : Marker) (dots : List Dot) (c : Cluster) (k : Nat) : Prop where
  cluster : m.cluster = k
  lowest : ∃ n ∈ c.members, (∀ n' ∈ c.members, n ≤ n') ∧ m.label = Text.ofNat n ∧
    ∃ d, dots[n]? = some d ∧ m.position = d.screen
  overlap : m.overlap ↔ 1 < c.members.length
  badge : m.badge = if 1 < c.members.length then some ('+' :: Text.ofNat (c.members.length - 1)) else none

lemma Numbered.marker {dots : List Dot} (h : Numbered dots) {c : Cluster} (hc : c ∈ Cluster.ofDots dots) (k : Nat) :
    ∃ m, Marker.ofCluster? dots c k = some m ∧ m.Marks dots c k := by
  obtain ⟨n, ms, hm⟩ := List.exists_cons_of_ne_nil (Cluster.members_ne_nil hc)
  have hlabel : c.label = n := by rw [Cluster.label, hm]; rfl
  have hn : n ∈ c.members := hm ▸ List.mem_cons_self
  obtain ⟨d, hd, -⟩ := (h.exists_cluster_iff n).mp ⟨c, hc, hn⟩
  have hleast : ∀ n' ∈ c.members, n ≤ n' := by
    have hsorted := Cluster.members_ascending hc
    rw [hm, List.pairwise_cons] at hsorted
    rw [hm]
    exact List.forall_mem_cons.mpr ⟨Nat.le_refl n, hsorted.1⟩
  refine ⟨⟨d.screen, Text.ofNat n, c.badge?, c.isOverlap, k⟩, ?_, rfl, ⟨n, hn, hleast, rfl, d, hd, rfl⟩, ?_, ?_⟩
  · rw [Marker.ofCluster?, hlabel, h.find?_eq, hd]
    rfl
  · exact decide_eq_true_iff
  · simp [Cluster.badge?, Cluster.isOverlap]

structure Projection.Shows (p : Projection) (f : Transform) (ns : List Node) : Prop where
  dots_eq : p.dots = ns.mapIdx fun i n => ⟨i, f.toScreen n.position, n.position.z⟩
  length_segments : p.segments.length = ns.length
  segment : ∀ i (s : Segment), p.segments[i]? = some s → ∃ n d, ns[i]? = some n ∧ p.dots[i]? = some d ∧
    s.finish = d.screen ∧ s.node = i ∧ s.motion = n.motion
  start_eq : ∀ s ∈ p.segments.head?, s.start = f.toScreen .origin
  linked : p.segments.IsChain fun s s' => s'.start = s.finish
  length_markers : p.markers.length = p.clusters.length
  marker : ∀ k (c : Cluster), p.clusters[k]? = some c → ∃ m : Marker, p.markers[k]? = some m ∧ m.Marks p.dots c k
  clusterOf?_eq : ∀ i c, p.clusterOf? i = some c ↔ c ∈ p.clusters ∧ i ∈ c.members
  isSome_clusterOf? : ∀ i, (p.clusterOf? i).isSome ↔ ∃ n, ns[i]? = some n ∧ (f.toScreen n.position).isFinite

section

variable {t : Text} {f : Transform}

lemma dots_project : (project (trace t) f).dots = (drawn (trace t)).mapIdx fun i n => ⟨i, f.toScreen n.position, n.position.z⟩ := by
  have hdots : (project (trace t) f).dots = (drawn (trace t)).map (Dot.ofNode f) := rfl
  apply List.ext_getElem?
  intro i
  rw [hdots, List.getElem?_map, List.getElem?_mapIdx]
  cases hn : (drawn (trace t))[i]? with
  | none => rfl
  | some n => simp [Dot.ofNode, index_of_getElem?_drawn hn]

lemma getElem?_dots_project (i : Nat) :
    (project (trace t) f).dots[i]? = (drawn (trace t))[i]?.map fun n => ⟨i, f.toScreen n.position, n.position.z⟩ := by
  rw [dots_project, List.getElem?_mapIdx]

lemma numbered_project (t : Text) (f : Transform) : Numbered (project (trace t) f).dots := by
  intro i d hd
  rw [getElem?_dots_project] at hd
  obtain ⟨n, -, rfl⟩ := Option.map_eq_some_iff.mp hd
  rfl

lemma segment_project {i : Nat} {s : Segment} (hs : (project (trace t) f).segments[i]? = some s) :
    ∃ n d, (drawn (trace t))[i]? = some n ∧ (project (trace t) f).dots[i]? = some d ∧
      s.finish = d.screen ∧ s.node = i ∧ s.motion = n.motion := by
  have hmap := congrArg (·[i]?) (map_segmentsFrom f .origin (drawn (trace t)))
  have hs' : (segmentsFrom f .origin (drawn (trace t)))[i]? = some s := hs
  simp only [List.getElem?_map, hs', Option.map_some] at hmap
  obtain ⟨n, hn, he⟩ := Option.map_eq_some_iff.mp hmap.symm
  simp only [Prod.mk.injEq] at he
  obtain ⟨hfinish, hmotion, hnode⟩ := he
  refine ⟨n, ⟨i, f.toScreen n.position, n.position.z⟩, hn, ?_, hfinish.symm, ?_, hmotion.symm⟩
  · rw [getElem?_dots_project, hn]
    rfl
  · rw [← hnode, index_of_getElem?_drawn hn]

lemma map_markers_project (t : Text) (f : Transform) : (project (trace t) f).markers.map some =
    (project (trace t) f).clusters.zipIdx.map fun (c, k) => Marker.ofCluster? (project (trace t) f).dots c k := by
  refine List.map_filterMap_some_eq_filter_map_isSome.trans (List.filter_eq_self.mpr ?_)
  rintro _ hm
  obtain ⟨⟨c, k⟩, hx, rfl⟩ := List.mem_map.mp hm
  obtain ⟨m, hm, -⟩ := (numbered_project t f).marker (List.fst_mem_of_mem_zipIdx hx) k
  exact congrArg Option.isSome hm

lemma marker_project {k : Nat} {c : Cluster} (hc : (project (trace t) f).clusters[k]? = some c) :
    ∃ m, (project (trace t) f).markers[k]? = some m ∧ m.Marks (project (trace t) f).dots c k := by
  obtain ⟨m, hm, hmarks⟩ := (numbered_project t f).marker (List.mem_of_getElem? hc) k
  have hmap := congrArg (·[k]?) (map_markers_project t f)
  simp only [List.getElem?_map, List.getElem?_zipIdx, hc, Option.map_some, Nat.zero_add, hm] at hmap
  obtain ⟨m', hm', he⟩ := Option.map_eq_some_iff.mp hmap
  exact ⟨m, Option.some.inj he ▸ hm', hmarks⟩

lemma clusterOf?_project {i : Nat} {c : Cluster} :
    (project (trace t) f).clusterOf? i = some c ↔ c ∈ (project (trace t) f).clusters ∧ i ∈ c.members := by
  constructor
  · intro h
    exact ⟨List.mem_of_find?_eq_some h, by simpa using List.find?_some h⟩
  · rintro ⟨hc, hi⟩
    have hsome : ((project (trace t) f).clusterOf? i).isSome := by
      rw [Projection.clusterOf?, List.find?_isSome]
      exact ⟨c, hc, by simpa using hi⟩
    obtain ⟨c', hc'⟩ := Option.isSome_iff_exists.mp hsome
    have hi' : i ∈ c'.members := by simpa using List.find?_some hc'
    rw [hc', (numbered_project t f).cluster_unique (List.mem_of_find?_eq_some hc') hc hi' hi]

lemma isSome_clusterOf?_project (i : Nat) :
    ((project (trace t) f).clusterOf? i).isSome ↔ ∃ n, (drawn (trace t))[i]? = some n ∧ (f.toScreen n.position).isFinite := by
  have hcluster : ((project (trace t) f).clusterOf? i).isSome ↔ ∃ c ∈ (project (trace t) f).clusters, i ∈ c.members := by
    simp [Projection.clusterOf?]
  apply hcluster.trans
  apply ((numbered_project t f).exists_cluster_iff i).trans
  rw [getElem?_dots_project]
  simp

end

/-- A scene shows the nodes up to the first line that asks for relative coordinates. -/
theorem project_shows (t : Text) (f : Transform) :
    (project (trace t) f).Shows f ((trace t).nodes.filter fun n => ((Text.lines t).findIdx? asksRelative).all (n.line ≤ ·)) := by
  rw [← relativeLine_trace, ← drawn_eq_filter]
  exact
    { dots_eq := dots_project
      length_segments := length_segmentsFrom f .origin _
      segment := fun _ _ => segment_project
      start_eq := start_segmentsFrom f .origin _
      linked := isChain_segmentsFrom f .origin _
      length_markers := by simpa using congrArg List.length (map_markers_project t f)
      marker := fun _ _ => marker_project
      clusterOf?_eq := fun _ _ => clusterOf?_project
      isSome_clusterOf? := isSome_clusterOf?_project }

example : (project (trace "G0 X1\nG1 Y-\nG1 Y0\nG91\nG1 X5".toList) .default).markers.map (fun m => (m.label, m.badge)) =
    [(['0'], some "+1".toList)] := by
  decide +kernel

end Toolpath.Scene
