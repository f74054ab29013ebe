import Mathlib.Data.Fintype.Basic
import Mathlib.Data.Fintype.Card
import Mathlib.Data.Fin.Tuple.Basic
import Mathlib.Data.List.FinRange
import Toolpath.Proofs.Program.LastWriter

/-!
Moves that come back. The keys met so far, each with its first line, are all that the check remembers of the
nodes before; with them it reports a node if and only if an earlier node stands at its place.
-/

namespace Toolpath.Program

def firstAt? (key : Text) (ns : List Node) : Option Node := ns.find? fun n => placeKey n.position = key

def Visits.Recalls (v : Visits) (ns : List Node) : Prop :=
  ∀ key, v.firstLine.lookup key = (firstAt? key ns).map (·.line)

def report? (ns : List Node) (n : Node) : Option Diagnostic :=
  (firstAt? (placeKey n.position) ns).map fun m => duplicate (placeKey n.position) n.line m.line

lemma firstAt?_concat (key : Text) (xs : List Node) (n : Node) :
    firstAt? key (xs ++ [n]) = (firstAt? key xs).or (if placeKey n.position = key then some n else none) := by
  rw [firstAt?, List.find?_append, List.find?_singleton]
  simp [firstAt?]

namespace Visits

variable {v : Visits} {xs : List Node}

lemma recalls_empty : empty.Recalls [] := fun _ => rfl

lemma Recalls.add (h : v.Recalls xs) (n : Node) : (v.add n).Recalls (xs ++ [n]) := by
  intro key
  have hseen := h (placeKey n.position)
  rw [firstAt?_concat]
  cases hn : firstAt? (placeKey n.position) xs with
  | none =>
    -- The key is new, and the line of the node is the first one for it.
    have hadd : (v.add n).firstLine = v.firstLine.insert (placeKey n.position) n.line := by
      simp [Visits.add, hseen, hn]
    rw [hadd, Entries.lookup_insert]
    by_cases hk : key = placeKey n.position
    · simp [hk, hn]
    · simp [hk, Ne.symm hk, h key]
  | some m =>
    have hadd : (v.add n).firstLine = v.firstLine := by simp [Visits.add, hseen, hn]
    rw [hadd, h key]
    split
    · rename_i hk
      rw [← hk, hn]
      rfl
    · rw [Option.or_none]

lemma Recalls.found_add (h : v.Recalls xs) (n : Node) : (v.add n).found = v.found ++ (report? xs n).toList := by
  rw [Visits.add, h (placeKey n.position), report?]
  cases firstAt? (placeKey n.position) xs with
  | none => exact (List.append_nil _).symm
  | some m => rfl

lemma Recalls.found_foldl_add (h : v.Recalls xs) (ys : List Node) : (ys.foldl Visits.add v).found =
    v.found ++ (ys.zipIdx xs.length).flatMap fun x => (report? ((xs ++ ys).take x.2) x.1).toList := by
  induction ys generalizing v xs with
  | nil => exact (List.append_nil _).symm
  | cons n ys ih =>
    have happ : xs ++ n :: ys = xs ++ [n] ++ ys := by simp
    have hlen : xs.length + 1 = (xs ++ [n]).length := by simp
    rw [List.foldl_cons, ih (h.add n), h.found_add, List.append_assoc, List.zipIdx_cons, List.flatMap_cons,
      List.take_left, happ, hlen]

end Visits

lemma zipIdx_eq_map_finRange (ns : List Node) :
    ns.zipIdx = (List.finRange ns.length).map fun i => (ns[i], i.val) := by
  refine List.ext_getElem (by simp) fun i h₁ h₂ => ?_
  simp

lemma revisits_eq_filterMap (ns : List Node) :
    revisits ns = (List.finRange ns.length).filterMap fun i : Fin ns.length => report? (ns.take i) ns[i] := by
  have h := Visits.recalls_empty.found_foldl_add ns
  rw [List.nil_append, List.length_nil, zipIdx_eq_map_finRange, List.flatMap_map] at h
  rw [List.filterMap_eq_flatMap_toList]
  exact h

section

variable (ns : List Node)

def keyOf (i : Fin ns.length) : Text := placeKey ns[i].position

def Returns (i : Fin ns.length) : Prop := ∃ j < i, keyOf ns j = keyOf ns i

instance : DecidablePred (Returns ns) := fun i => inferInstanceAs (Decidable (∃ j < i, keyOf ns j = keyOf ns i))

def firstVisit (i : Fin ns.length) : Fin ns.length := Fin.find (fun j => keyOf ns j = keyOf ns i) ⟨i, rfl⟩

lemma keyOf_firstVisit (i : Fin ns.length) : keyOf ns (firstVisit ns i) = keyOf ns i :=
  Fin.find_spec (p := fun j => keyOf ns j = keyOf ns i) ⟨i, rfl⟩

variable {ns} {i j : Fin ns.length}

lemma firstVisit_le (h : keyOf ns j = keyOf ns i) : firstVisit ns i ≤ j :=
  Fin.find_le_of_pos (p := fun j => keyOf ns j = keyOf ns i) ⟨i, rfl⟩ h

lemma returns_iff_lt : Returns ns i ↔ firstVisit ns i < i := by
  constructor
  · rintro ⟨j, hj, hkey⟩
    exact lt_of_le_of_lt (firstVisit_le hkey) hj
  · exact fun h => ⟨_, h, keyOf_firstVisit ns i⟩

lemma firstAt?_take (i : Fin ns.length) :
    firstAt? (keyOf ns i) (ns.take i) = if Returns ns i then some ns[firstVisit ns i] else none := by
  split
  · rename_i hr
    have hlt : (firstVisit ns i).val < i := returns_iff_lt.mp hr
    rw [firstAt?, List.find?_eq_some_iff_getElem]
    refine ⟨decide_eq_true (keyOf_firstVisit ns i), firstVisit ns i, by simp [hlt], by simp, fun k hk => ?_⟩
    have hne : keyOf ns ⟨k, by omega⟩ ≠ keyOf ns i := fun h => absurd (firstVisit_le h) (Nat.not_le.mpr hk)
    simpa [keyOf] using hne
  · rename_i hr
    rw [firstAt?, List.find?_eq_none]
    intro m hm
    obtain ⟨k, hk, rfl⟩ := List.mem_take_iff_getElem.mp hm
    have hlt : k < i := by omega
    have hne : keyOf ns ⟨k, by omega⟩ ≠ keyOf ns i := fun h => hr ⟨_, hlt, h⟩
    exact mt of_decide_eq_true hne

lemma eq_of_keyOf_eq (hi : ¬ Returns ns i) (hj : ¬ Returns ns j) (h : keyOf ns i = keyOf ns j) : i = j := by
  rcases lt_trichotomy i j with hij | hij | hij
  · exact absurd ⟨i, hij, h⟩ hj
  · exact hij
  · exact absurd ⟨j, hij, h.symm⟩ hi

lemma injective_keyOf_iff (ns : List Node) : Function.Injective (keyOf ns) ↔ ∀ i, ¬ Returns ns i := by
  constructor
  · rintro hinj i ⟨j, hj, h⟩
    exact hj.ne (hinj h)
  · exact fun hr i j h => eq_of_keyOf_eq (hr i) (hr j) h

lemma card_returns (ns : List Node) :
    (Finset.univ.filter (Returns ns)).card + (Finset.univ.image (keyOf ns)).card = ns.length := by
  -- Each key is that of exactly one node that returns nowhere, its first visit.
  have himage : Finset.univ.image (keyOf ns) = (Finset.univ.filter fun i => ¬ Returns ns i).image (keyOf ns) := by
    apply Finset.Subset.antisymm
    · intro key hkey
      obtain ⟨i, -, rfl⟩ := Finset.mem_image.mp hkey
      refine Finset.mem_image.mpr ⟨firstVisit ns i, ?_, keyOf_firstVisit ns i⟩
      simp only [Finset.mem_filter_univ, returns_iff_lt, not_lt]
      exact firstVisit_le (keyOf_firstVisit ns _ |>.trans (keyOf_firstVisit ns i))
    · exact Finset.image_subset_image (Finset.filter_subset _ _)
  have hinj : Set.InjOn (keyOf ns) (Finset.univ.filter fun i => ¬ Returns ns i) := by
    intro i hi j hj h
    simp only [Finset.coe_filter, Finset.mem_univ, true_and, Set.mem_ofPred_eq] at hi hj
    exact eq_of_keyOf_eq hi hj h
  rw [himage, Finset.card_image_of_injOn hinj, Finset.card_filter_add_card_filter_not, Finset.card_univ,
    Fintype.card_fin]

end

lemma revisits_eq_map (ns : List Node) :
    revisits ns = ((List.finRange ns.length).filter (Returns ns ·)).map fun i =>
      duplicate (keyOf ns i) ns[i].line ns[firstVisit ns i].line := by
  rw [revisits_eq_filterMap, ← List.filterMap_eq_filter, List.map_filterMap]
  refine List.filterMap_congr fun i _ => ?_
  rw [report?, ← keyOf, firstAt?_take]
  by_cases h : Returns ns i <;> simp [h, Option.guard]

lemma length_revisits (ns : List Node) :
    (revisits ns).length + (Finset.univ.image (keyOf ns)).card = ns.length := by
  have hcard : ((List.finRange ns.length).filter (Returns ns ·)).length = (Finset.univ.filter (Returns ns)).card := by
    have hnodup := (List.nodup_finRange ns.length).filter (Returns ns ·)
    rw [← List.toFinset_card_of_nodup hnodup]
    congr 1
    ext i
    simp
  rw [revisits_eq_map, List.length_map, hcard, card_returns]

/-- A node is reported if and only if an earlier one has its key, with the line of the first such node; so there
are as many reports as nodes beyond the distinct keys. -/
theorem returns_reported (t : Text) :
    let ns := (trace t).nodes
    let key (i : Fin ns.length) := placeKey ns[i].position
    let first (i : Fin ns.length) := Fin.find (fun j => key j = key i) ⟨i, rfl⟩
    findDuplicates t = ((List.finRange ns.length).filter fun i => ∃ j < i, key j = key i).map (fun i =>
      ⟨ns[i].line, .error, "Duplicate node at (".toList ++ key i ++ "), first seen on line ".toList ++
        Text.ofNat (ns[first i].line + 1)⟩) ∧
    (∀ i, (∃ d ∈ findDuplicates t, d.line = ns[i].line) ↔ ∃ j < i, key j = key i) ∧
    (findDuplicates t).length + (Finset.univ.image key).card = ns.length ∧
    (check t = .clean ↔ Function.Injective key) := by
  intro ns key first
  have heq : findDuplicates t = _ := (findDuplicates_eq t).trans (revisits_eq_map ns)
  refine ⟨heq, fun i => ?_, findDuplicates_eq t ▸ length_revisits ns, ?_⟩
  · rw [heq]
    constructor
    · rintro ⟨d, hd, hline⟩
      obtain ⟨j, hj, rfl⟩ := List.mem_map.mp hd
      have hij : j = i := Fin.ext (Trace.index_unique (pairwise_line_trace t) (List.getElem?_eq_getElem j.2)
        (List.getElem?_eq_getElem i.2) hline)
      subst hij
      exact of_decide_eq_true (List.mem_filter.mp hj).2
    · intro hi
      exact ⟨_, List.mem_map_of_mem (List.mem_filter.mpr ⟨List.mem_finRange i, decide_eq_true hi⟩), rfl⟩
  · have hclean : check t = .clean ↔ findDuplicates t = [] := by
      rw [check]
      cases findDuplicates t <;> simp [Report.ofDiagnostics]
    rw [hclean, heq, List.map_eq_nil_iff, List.filter_eq_nil_iff]
    simp only [List.mem_finRange, forall_const, decide_eq_true_eq]
    exact (injective_keyOf_iff ns).symm

example : (findDuplicates "G1 Xbad\nG1 X0.001\n; up\nG0 X-0.001\nG1 Xworse".toList).map (fun d => (d.line, d.message)) =
    [(3, "Duplicate node at (0.00,0.00,0.00), first seen on line 2".toList),
      (4, "Duplicate node at (NaN,0.00,0.00), first seen on line 1".toList)] := by
  decide +kernel

end Toolpath.Program
