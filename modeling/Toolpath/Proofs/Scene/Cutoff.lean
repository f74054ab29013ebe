import Toolpath.Proofs.Program.LastWriter
import Toolpath.Scene.Projection

/-!
Where drawing stops. The nodes before the first line that asks for relative coordinates are the nodes of
the lines before it, so that the scene is theirs, whatever follows.
-/

namespace Toolpath.Program

open Text

def asksRelative (x : Text) : Bool := mnemonic? x = some ['G', '9', '1']

def nodesOf (ls : List Text) : List Node := (movesOf ls.zipIdx).mapIdx (nodeAt ls)

lemma statements_unlines {ls : List Text} (h : ∀ l ∈ ls, '\n' ∉ l) :
    statements (unlines ls) = Statement.ofLines ls.zipIdx := by
  cases ls with
  | nil => rfl
  | cons l ls => rw [statements, lines_unlines (List.cons_ne_nil l ls) h]

lemma nodes_trace_unlines {ls : List Text} (h : ∀ l ∈ ls, '\n' ∉ l) : (trace (unlines ls)).nodes = nodesOf ls := by
  cases ls with
  | nil => rfl
  | cons l ls => rw [nodes_trace, lines_unlines (List.cons_ne_nil l ls) h, nodesOf]

lemma relativeLine_trace_unlines {ls : List Text} (h : ∀ l ∈ ls, '\n' ∉ l) :
    (trace (unlines ls)).relativeLine = ls.findIdx? asksRelative := by
  have hl := relativeLine_ofLines ls 0
  rw [← statements_unlines h] at hl
  simp only [Nat.add_zero, Option.map_id'] at hl
  rw [trace_eq]
  exact hl

lemma relativeLine_trace (t : Text) : (trace t).relativeLine = (lines t).findIdx? asksRelative := by
  have hl := relativeLine_trace_unlines fun _ => newline_not_mem_lines (t := t)
  rwa [unlines_lines] at hl

lemma not_moves_of_asksRelative {x : Text} (h : asksRelative x) : ¬ moves x := by
  simp only [asksRelative, decide_eq_true_eq] at h
  simp [moves, h]

lemma mem_nodesOf {ls : List Text} {n : Node} (h : n ∈ nodesOf ls) : ∃ x, ls[n.line]? = some x ∧ moves x := by
  obtain ⟨i, hi, rfl⟩ := List.mem_mapIdx.mp h
  obtain ⟨x, hx, hm, -⟩ := mem_movesOf.mp (List.getElem_mem hi)
  exact ⟨x, hx, hm⟩

lemma line_lt_of_mem_nodesOf {ls : List Text} {n : Node} (h : n ∈ nodesOf ls) : n.line < ls.length := by
  obtain ⟨x, hx, -⟩ := mem_nodesOf h
  exact (List.getElem?_eq_some_iff.mp hx).1

lemma le_of_mem_movesOf {ls : List Text} {k : Nat} {m : Motion × Nat} (h : m ∈ movesOf (ls.zipIdx k)) :
    k ≤ m.2 := by
  obtain ⟨⟨x, l⟩, hx, hm⟩ := List.mem_filterMap.mp h
  dsimp only at hm
  split at hm
  · obtain ⟨m', -, rfl⟩ := Option.map_eq_some_iff.mp hm
    have hle := List.le_snd_of_mem_zipIdx hx
    exact hle
  · cases hm

lemma nodesOf_append (xs ys : List Text) :
    ∃ ns, nodesOf (xs ++ ys) = nodesOf xs ++ ns ∧ ∀ n ∈ ns, xs.length ≤ n.line := by
  refine ⟨(movesOf (ys.zipIdx xs.length)).mapIdx fun i => nodeAt (xs ++ ys) (i + (movesOf xs.zipIdx).length),
    ?_, fun n hn => ?_⟩
  · have hm : movesOf (xs ++ ys).zipIdx = movesOf xs.zipIdx ++ movesOf (ys.zipIdx xs.length) := by
      rw [List.zipIdx_append, movesOf, List.filterMap_append, Nat.zero_add]
      rfl
    have hx : (movesOf xs.zipIdx).mapIdx (nodeAt (xs ++ ys)) = nodesOf xs := by
      refine List.ext_getElem (by simp [nodesOf]) fun i h₁ h₂ => ?_
      have hl := line_lt_of_mem_nodesOf (List.getElem_mem h₂)
      simp only [nodesOf, List.getElem_mapIdx, nodeAt] at hl ⊢
      rw [List.take_append_of_le_length hl]
    rw [nodesOf, hm, List.mapIdx_append, hx]
  · obtain ⟨i, hi, rfl⟩ := List.mem_mapIdx.mp hn
    exact le_of_mem_movesOf (List.getElem_mem hi)

lemma getElem?_index_nodesOf {ls : List Text} {n : Node} (h : n ∈ nodesOf ls) :
    (nodesOf ls)[n.index]? = some n := by
  obtain ⟨i, hi, rfl⟩ := List.mem_mapIdx.mp h
  simp [nodesOf, nodeAt, hi]

lemma findIdx?_of_take_eq {p : Text → Bool} {xs ys : List Text} {i : Nat} (h : xs.findIdx? p = some i)
    (hy : ys.take (i + 1) = xs.take (i + 1)) : ys.findIdx? p = some i := by
  obtain ⟨hi, hp, hmin⟩ := List.findIdx?_eq_some_iff_getElem.mp h
  have htake : (xs.take (i + 1)).findIdx? p = some i := by
    refine List.findIdx?_eq_some_iff_getElem.mpr ⟨by rw [List.length_take]; omega, by simpa using hp, fun j hj => ?_⟩
    simpa using hmin j hj
  rw [← List.take_append_drop (i + 1) ys, List.findIdx?_append, hy, htake]
  rfl

lemma drawn_begins (t : Text) : Scene.drawn (trace t) <+: (trace t).nodes := by
  rw [Scene.drawn]
  cases (trace t).relativeLine with
  | none => exact List.prefix_refl _
  | some line => exact List.takeWhile_prefix _

lemma index_of_getElem?_drawn {t : Text} {i : Nat} {n : Node} (h : (Scene.drawn (trace t))[i]? = some n) : n.index = i := by
  obtain ⟨hi, rfl⟩ := List.getElem?_eq_some_iff.mp h
  exact index_of_getElem?_nodes (List.prefix_iff_getElem?.mp (drawn_begins t) i hi)

lemma drawn_eq_nodesOf {t : Text} {line : Nat} (h : (lines t).findIdx? asksRelative = some line) :
    Scene.drawn (trace t) = nodesOf ((lines t).take line) := by
  obtain ⟨hlt, hrel, -⟩ := List.findIdx?_eq_some_iff_getElem.mp h
  have hlen : ((lines t).take line).length = line := List.length_take_of_le (Nat.le_of_lt hlt)
  obtain ⟨ns, hns, hlater⟩ := nodesOf_append ((lines t).take line) ((lines t).drop line)
  rw [List.take_append_drop] at hns
  rw [Scene.drawn, relativeLine_trace, h]
  dsimp only
  have hbefore : ∀ n ∈ nodesOf ((lines t).take line), decide (n.line ≤ line) := fun n hn =>
    decide_eq_true (Nat.le_of_lt (hlen ▸ line_lt_of_mem_nodesOf hn))
  have hafter : ∀ n ∈ ns, line < n.line := fun n hn => by
    have hle := hlater n hn
    rw [hlen] at hle
    obtain ⟨x, hx, hm⟩ := mem_nodesOf (hns ▸ List.mem_append_right _ hn)
    have hne : n.line ≠ line := by
      intro he
      rw [he, List.getElem?_eq_getElem hlt, Option.some.injEq] at hx
      exact not_moves_of_asksRelative hrel (hx ▸ hm)
    exact Nat.lt_of_le_of_ne hle hne.symm
  rw [nodes_trace, ← nodesOf, hns, List.takeWhile_append_of_pos hbefore]
  cases ns with
  | nil => simp
  | cons n ns => simp [hafter n List.mem_cons_self]

end Toolpath.Program

namespace Toolpath.Scene

open Program Text

lemma project_eq (r : Trace) (f : Transform) :
    project r f = { project ⟨drawn r, [], none⟩ f with aborted := r.relativeLine.map Abort.mk } := rfl

lemma project_of_nodes {r r' : Trace} (h : drawn r = drawn r') (hr : r.relativeLine = r'.relativeLine)
    (f : Transform) : project r f = project r' f := by
  rw [project_eq, project_eq r', h, hr]

lemma map_segmentsFrom (f : Transform) (p : Position) (ns : List Node) :
    (segmentsFrom f p ns).map (fun s => (s.finish, s.motion, s.node)) =
      ns.map fun n => (f.toScreen n.position, n.motion, n.index) := by
  induction ns generalizing p with
  | nil => rfl
  | cons n ns ih => simp [segmentsFrom, ih]

lemma mem_segmentsFrom {f : Transform} {p : Position} {ns : List Node} {s : Segment}
    (h : s ∈ segmentsFrom f p ns) : ∃ n ∈ ns, n.index = s.node := by
  have hs := List.mem_map_of_mem (f := fun s => (s.finish, s.motion, s.node)) h
  rw [map_segmentsFrom] at hs
  obtain ⟨n, hn, he⟩ := List.mem_map.mp hs
  simp only [Prod.mk.injEq] at he
  exact ⟨n, hn, he.2.2⟩

def Projection.shownNodes (p : Projection) : List Nat := p.dots.map (·.node) ++ p.segments.map (·.node)

lemma mem_shownNodes {r : Trace} {f : Transform} {i : Nat} (h : i ∈ (project r f).shownNodes) :
    ∃ n ∈ drawn r, n.index = i := by
  rcases List.mem_append.mp h with h | h
  · obtain ⟨d, hd, rfl⟩ := List.mem_map.mp h
    obtain ⟨n, hn, rfl⟩ := List.mem_map.mp hd
    exact ⟨n, hn, rfl⟩
  · obtain ⟨s, hs, rfl⟩ := List.mem_map.mp h
    exact mem_segmentsFrom hs

lemma isSome_aborted_iff (f : Transform) (t : Text) :
    (project (trace t) f).aborted.isSome ↔ ∃ s ∈ statements t, s.kind = .relative := by
  simp [project, trace_eq]

section

variable {t : Text} {line : Nat} (h : (lines t).findIdx? asksRelative = some line)

include h

lemma project_eq_of_take_eq {u : Text} (hu : (lines u).take (line + 1) = (lines t).take (line + 1)) (f : Transform) :
    project (trace u) f = project (trace t) f := by
  have h' := findIdx?_of_take_eq h hu
  have htake : (lines u).take line = (lines t).take line := by
    simpa [List.take_take] using congrArg (List.take line) hu
  refine project_of_nodes ?_ ?_ f
  · rw [drawn_eq_nodesOf h', drawn_eq_nodesOf h, htake]
  · rw [relativeLine_trace, relativeLine_trace, h', h]

lemma lineOfNode?_of_mem_shownNodes {f : Transform} {i : Nat} (hi : i ∈ (project (trace t) f).shownNodes) :
    ∃ l < line, (trace t).lineOfNode? i = some l := by
  obtain ⟨n, hn, rfl⟩ := mem_shownNodes hi
  rw [drawn_eq_nodesOf h] at hn
  obtain ⟨ns, hns, -⟩ := nodesOf_append ((lines t).take line) ((lines t).drop line)
  rw [List.take_append_drop] at hns
  have hlt := Nat.lt_of_lt_of_le (line_lt_of_mem_nodesOf hn) (List.length_take_le ..)
  have hget := getElem?_index_nodesOf hn
  refine ⟨n.line, hlt, ?_⟩
  rw [Trace.lineOfNode?, nodes_trace, ← nodesOf, hns,
    List.getElem?_append_left (List.getElem?_eq_some_iff.mp hget).1, hget]
  rfl

lemma project_unlines_take (f : Transform) :
    { project (trace t) f with aborted := none } = project (trace (unlines ((lines t).take line))) f := by
  have hnl : ∀ l ∈ (lines t).take line, '\n' ∉ l := fun l hl => newline_not_mem_lines (List.mem_of_mem_take hl)
  obtain ⟨_, _, hmin⟩ := List.findIdx?_eq_some_iff_getElem.mp h
  have hnone : ((lines t).take line).findIdx? asksRelative = none := by
    rw [List.findIdx?_eq_none_iff]
    intro x hx
    obtain ⟨j, hj, rfl⟩ := List.mem_iff_getElem.mp hx
    have := hmin j (Nat.lt_of_lt_of_le hj (List.length_take_le ..))
    simpa using this
  rw [project_eq, project_eq (trace (unlines _)), relativeLine_trace_unlines hnl, hnone, drawn_eq_nodesOf h, drawn,
    relativeLine_trace_unlines hnl, hnone, nodes_trace_unlines hnl]
  rfl

end

/-- A scene is cut off if and only if a line asks for relative coordinates. It is then the scene of the lines
before the first such line, and the same for every text that goes on differently after it. -/
theorem project_cut_off (f : Transform) (t : Text) :
    ((project (trace t) f).aborted.isSome ↔ ∃ s ∈ statements t, s.kind = .relative) ∧
    ∀ line, (lines t).findIdx? asksRelative = some line →
      let p := project (trace t) f
      p.aborted = some ⟨line⟩ ∧
      (∀ u, (lines u).take (line + 1) = (lines t).take (line + 1) → project (trace u) f = p) ∧
      (∀ i ∈ p.shownNodes, ∃ l < line, (trace t).lineOfNode? i = some l) ∧
      { p with aborted := none } = project (trace (unlines ((lines t).take line))) f := by
  refine ⟨isSome_aborted_iff f t, fun line h => ⟨?_, fun u hu => project_eq_of_take_eq h hu f, fun i hi =>
    lineOfNode?_of_mem_shownNodes h hi, project_unlines_take h f⟩⟩
  have hrel : (trace t).relativeLine = some line := (relativeLine_trace t).trans h
  rw [project_eq, hrel]
  rfl

theorem project_cut_off_third :
    let before := "G1 X1\nG0 Y2\ng91 ; up\n".toList
    let t := before ++ "G1 X5".toList
    let u := before ++ "G90\nG1 Z9\nG91\nG0 X7".toList
    (lines t).findIdx? asksRelative = some 2 ∧
      (project (trace t) .default).aborted = some ⟨2⟩ ∧ project (trace u) .default = project (trace t) .default := by
  have h : (lines ("G1 X1\nG0 Y2\ng91 ; up\n".toList ++ "G1 X5".toList)).findIdx? asksRelative = some 2 := by
    decide
  have hp := (project_cut_off .default _).2 2 h
  exact ⟨h, hp.1, hp.2.1 _ (by decide)⟩

end Toolpath.Scene
