import Mathlib.Data.List.Induction
import Mathlib.Data.List.Perm.Basic
import Mathlib.Data.List.Sort
import Mathlib.Tactic.Lemma
import Toolpath.Scene.Cluster

/-!
Clusters partition the dots. The keys are the pixels in the order in which they first appear, and each cluster
has all nodes at its pixel; so another order of the dots gives the same clusters in another order.
-/

namespace Toolpath

lemma map_modify_of_eq {α β : Type} {f : α → α} {g : α → β} (h : ∀ a, g (f a) = g a) (xs : List α) (i : Nat) :
    (xs.modify i f).map g = xs.map g := by
  refine List.ext_getElem? fun j => ?_
  rw [List.getElem?_map, List.getElem?_modify, List.getElem?_map]
  cases xs[j]? with
  | none => rfl
  | some a => by_cases hij : i = j <;> simp [hij, h]

namespace Scene

def Dot.pixel? (d : Dot) : Option Pixel := Pixel.ofPoint? d.screen

def pixels (dots : List Dot) : List Pixel := dots.filterMap Dot.pixel?

def nodesAt (dots : List Dot) (k : Pixel) : List Nat := (dots.filter fun d => d.pixel? = some k).map (·.node)

lemma pixels_concat (dots : List Dot) (d : Dot) : pixels (dots ++ [d]) = pixels dots ++ d.pixel?.toList := by
  simp [pixels, List.filterMap_cons]
  cases d.pixel? <;> rfl

lemma nodesAt_concat (dots : List Dot) (d : Dot) (k : Pixel) :
    nodesAt (dots ++ [d]) k = nodesAt dots k ++ if d.pixel? = some k then [d.node] else [] := by
  by_cases hd : d.pixel? = some k <;> simp [nodesAt, hd]

lemma mem_pixels {dots : List Dot} {k : Pixel} : k ∈ pixels dots ↔ ∃ d ∈ dots, d.pixel? = some k :=
  List.mem_filterMap

lemma nodesAt_eq_nil {dots : List Dot} {k : Pixel} : nodesAt dots k = [] ↔ k ∉ pixels dots := by
  simp [nodesAt, mem_pixels, List.filter_eq_nil_iff]

lemma eraseDups_concat (ks : List Pixel) (k : Pixel) :
    (ks ++ [k]).eraseDups = ks.eraseDups ++ if k ∈ ks then [] else [k] := by
  rw [List.eraseDups_append]
  have hone : [k].eraseDups = [k] := rfl
  by_cases hk : k ∈ ks <;> simp [List.removeAll, hk, hone]

def appearance (dots : List Dot) (k : Pixel) : Nat := dots.findIdx fun d => d.pixel? = some k

lemma appearance_lt {dots : List Dot} {k : Pixel} (hk : k ∈ pixels dots) : appearance dots k < dots.length := by
  obtain ⟨d, hd, hk⟩ := mem_pixels.mp hk
  exact List.findIdx_lt_length_of_exists ⟨d, hd, decide_eq_true hk⟩

lemma appearance_append {dots : List Dot} {k : Pixel} (hk : k ∈ pixels dots) (ds : List Dot) :
    appearance (dots ++ ds) k = appearance dots k := by
  rw [appearance, List.findIdx_append]
  exact if_pos (appearance_lt hk)

lemma le_appearance_append {dots : List Dot} {k : Pixel} (hk : k ∉ pixels dots) (ds : List Dot) :
    dots.length ≤ appearance (dots ++ ds) k := by
  rw [appearance, List.findIdx_append, if_neg]
  · exact Nat.le_add_left ..
  · intro h
    have hf := List.findIdx_getElem (w := h)
    exact hk (mem_pixels.mpr ⟨_, List.getElem_mem h, of_decide_eq_true hf⟩)

lemma pairwise_appearance (dots : List Dot) :
    (pixels dots).eraseDups.Pairwise fun k l => appearance dots k < appearance dots l := by
  -- From the right, since a new pixel is the last one to appear.
  induction dots using List.reverseRecOn with
  | nil => exact List.Pairwise.nil
  | append_singleton dots d ih =>
    have hold : (pixels dots).eraseDups.Pairwise fun k l => appearance (dots ++ [d]) k < appearance (dots ++ [d]) l := by
      refine ih.imp_of_mem fun hk hl h => ?_
      rwa [appearance_append (List.mem_eraseDups.mp hk), appearance_append (List.mem_eraseDups.mp hl)]
    rw [pixels_concat]
    cases d.pixel? with
    | none => simpa using hold
    | some l =>
      rw [Option.toList_some, eraseDups_concat]
      by_cases hl : l ∈ pixels dots
      · simpa [hl] using hold
      · rw [if_neg hl, List.pairwise_append]
        refine ⟨hold, List.pairwise_singleton _ _, fun k hk l' hl' => ?_⟩
        have hk := List.mem_eraseDups.mp hk
        obtain rfl := List.mem_singleton.mp hl'
        calc appearance (dots ++ [d]) k = appearance dots k := appearance_append hk _
          _ < dots.length := appearance_lt hk
          _ ≤ appearance (dots ++ [d]) l' := le_appearance_append hl _

lemma nodup_pixels (dots : List Dot) : (pixels dots).eraseDups.Nodup := by
  refine (pairwise_appearance dots).imp fun {k l} h => ?_
  rintro rfl
  exact Nat.lt_irrefl _ h

namespace Cluster

lemma insertAscending_eq (n : Nat) (ns : List Nat) : insertAscending n ns = ns.orderedInsert (· ≤ ·) n := by
  induction ns with
  | nil => rfl
  | cons m ns ih => rw [insertAscending, ih, List.orderedInsert_cons]

lemma ascending_eq (ns : List Nat) : ascending ns = ns.insertionSort (· ≤ ·) := by
  induction ns with
  | nil => rfl
  | cons n ns ih =>
    rw [List.insertionSort_cons, ← ih, ← insertAscending_eq]
    rfl

lemma ascending_perm (ns : List Nat) : (ascending ns).Perm ns := by
  rw [ascending_eq]
  exact List.perm_insertionSort _ _

lemma pairwise_ascending (ns : List Nat) : (ascending ns).Pairwise (· ≤ ·) := by
  rw [ascending_eq]
  exact List.pairwise_insertionSort _ _

lemma ascending_congr {ns ms : List Nat} (h : ns.Perm ms) : ascending ns = ascending ms := by
  apply List.Perm.eq_of_pairwise (fun _ _ _ _ => Nat.le_antisymm) (pairwise_ascending ns) (pairwise_ascending ms)
  exact (ascending_perm ns).trans (h.trans (ascending_perm ms).symm)

def place (key : Pixel) (node : Nat) : List Cluster → List Cluster
  | [] => [⟨key, key.center, [node]⟩]
  | c :: r => if c.key = key then c.push node :: r else c :: place key node r

lemma place_eq_modify {k : Pixel} {i : Nat} (n : Nat) {cs : List Cluster} (h : cs.findIdx? (·.key = k) = some i) :
    place k n cs = cs.modify i (·.push n) := by
  induction cs generalizing i with
  | nil => cases h
  | cons c cs ih =>
    rw [List.findIdx?_cons] at h
    rw [place]
    split
    · rename_i hc
      obtain rfl : 0 = i := by simpa [hc] using h
      rfl
    · rename_i hc
      rw [if_neg (by simpa using hc)] at h
      obtain ⟨j, hj, rfl⟩ := Option.map_eq_some_iff.mp h
      rw [ih hj, List.modify_succ_cons]

lemma place_eq_concat {k : Pixel} (n : Nat) {cs : List Cluster} (h : cs.findIdx? (·.key = k) = none) :
    place k n cs = cs ++ [⟨k, k.center, [n]⟩] := by
  induction cs with
  | nil => rfl
  | cons c cs ih =>
    rw [List.findIdx?_eq_none_iff, List.forall_mem_cons, ← List.findIdx?_eq_none_iff] at h
    rw [place, if_neg (of_decide_eq_false h.1), ih h.2, List.cons_append]

def placed (dots : List Dot) : List Cluster :=
  dots.foldl (fun cs d => match d.pixel? with | some k => place k d.node cs | none => cs) []

end Cluster

namespace Grouping

/-- The place of a pixel is that of its cluster in the list. -/
def Linked (g : Grouping) : Prop := ∀ k, g.places.lookup k = g.clusters.findIdx? (·.key = k)

variable {g : Grouping}

lemma linked_empty : empty.Linked := fun _ => rfl

lemma Linked.clusters_put (h : g.Linked) (k : Pixel) (n : Nat) : (g.put k n).clusters = Cluster.place k n g.clusters := by
  rw [put, h k]
  cases hk : g.clusters.findIdx? (·.key = k) with
  | some i => exact (Cluster.place_eq_modify n hk).symm
  | none => exact (Cluster.place_eq_concat n hk).symm

lemma Linked.put (h : g.Linked) (k : Pixel) (n : Nat) : (g.put k n).Linked := by
  intro l
  rw [Grouping.put, h k]
  cases hk : g.clusters.findIdx? (·.key = k) with
  | some i =>
    have hfind : ∀ cs : List Cluster, cs.findIdx? (·.key = l) = (cs.map (·.key)).findIdx? (· = l) := fun cs => by
      rw [List.findIdx?_map]
      rfl
    have hkeys : (g.clusters.modify i (·.push n)).map (·.key) = g.clusters.map (·.key) :=
      map_modify_of_eq (fun c => c.key_push n) ..
    dsimp only
    rw [h l, hfind, hfind, hkeys]
  | none =>
    simp only [Entries.lookup_insert, List.findIdx?_append, h l]
    by_cases hl : l = k
    · subst hl
      simp [hk]
    · simp [hl, Ne.symm hl]

lemma Linked.add (h : g.Linked) (d : Dot) : (g.add d).Linked := by
  rw [Grouping.add]
  cases Pixel.ofPoint? d.screen with
  | some k => exact h.put k d.node
  | none => exact h

lemma Linked.clusters_foldl (h : g.Linked) (dots : List Dot) : (dots.foldl Grouping.add g).clusters =
    dots.foldl (fun cs d => match d.pixel? with | some k => Cluster.place k d.node cs | none => cs) g.clusters := by
  induction dots generalizing g with
  | nil => rfl
  | cons d dots ih =>
    rw [List.foldl_cons, List.foldl_cons, ih (h.add d), Grouping.add, Dot.pixel?]
    cases Pixel.ofPoint? d.screen with
    | some k => rw [h.clusters_put]
    | none => rfl

end Grouping

namespace Cluster

lemma ofDots_eq_map_placed (dots : List Dot) :
    ofDots dots = (placed dots).map fun c => { c with members := ascending c.members } := by
  rw [ofDots, Grouping.linked_empty.clusters_foldl]
  rfl

def gathered (members : Pixel → List Nat) (k : Pixel) : Cluster := ⟨k, k.center, members k⟩

lemma place_map {members members' : Pixel → List Nat} {k : Pixel} {n : Nat} (hk : members' k = members k ++ [n])
    (hne : ∀ l, l ≠ k → members' l = members l) {ks : List Pixel} (hd : ks.Nodup) (hnew : k ∉ ks → members k = []) :
    place k n (ks.map (gathered members)) = (ks ++ if k ∈ ks then [] else [k]).map (gathered members') := by
  induction ks with
  | nil => simp [place, gathered, hk, hnew]
  | cons l ks ih =>
    obtain ⟨hl, hd⟩ := List.nodup_cons.mp hd
    rw [List.map_cons, place]
    by_cases hlk : l = k
    · subst hlk
      have hrest : ks.map (gathered members) = ks.map (gathered members') := by
        refine List.map_congr_left fun m hm => ?_
        rw [gathered, gathered, hne m fun h => hl (h ▸ hm)]
      simp [gathered, push, hk, hrest]
    · have hi := ih hd fun h => hnew (by simp [Ne.symm hlk, h])
      have hc : (gathered members l).key ≠ k := hlk
      rw [if_neg hc, hi, gathered, ← hne l hlk]
      simp [Ne.symm hlk, gathered]

lemma placed_eq (dots : List Dot) : placed dots = (pixels dots).eraseDups.map (gathered (nodesAt dots)) := by
  induction dots using List.reverseRecOn with
  | nil => rfl
  | append_singleton dots d ih =>
    have hstep : placed (dots ++ [d]) = match d.pixel? with | some k => place k d.node (placed dots) | none => placed dots :=
      List.foldl_concat ..
    rw [hstep, pixels_concat]
    cases hd : d.pixel? with
    | none =>
      have hnodes : nodesAt (dots ++ [d]) = nodesAt dots := by
        funext k
        simp [nodesAt_concat, hd]
      simpa [hnodes] using ih
    | some k =>
      have hk : nodesAt (dots ++ [d]) k = nodesAt dots k ++ [d.node] := by simp [nodesAt_concat, hd]
      have hne : ∀ l, l ≠ k → nodesAt (dots ++ [d]) l = nodesAt dots l := by
        intro l hl
        simp [nodesAt_concat, hd, Ne.symm hl]
      have hnew : k ∉ (pixels dots).eraseDups → nodesAt dots k = [] := by simp [nodesAt_eq_nil]
      dsimp only
      rw [ih, place_map hk hne (nodup_pixels dots) hnew, Option.toList_some, eraseDups_concat]
      simp

theorem ofDots_eq (dots : List Dot) :
    ofDots dots = (pixels dots).eraseDups.map (gathered fun k => ascending (nodesAt dots k)) := by
  rw [ofDots_eq_map_placed, placed_eq, List.map_map]
  rfl

lemma mem_ofDots {dots : List Dot} {c : Cluster} :
    c ∈ ofDots dots ↔ c.key ∈ pixels dots ∧ c = gathered (fun k => ascending (nodesAt dots k)) c.key := by
  rw [ofDots_eq, List.mem_map]
  constructor
  · rintro ⟨k, hk, rfl⟩
    exact ⟨List.mem_eraseDups.mp hk, rfl⟩
  · rintro ⟨hk, hc⟩
    exact ⟨c.key, List.mem_eraseDups.mpr hk, hc.symm⟩

lemma members_perm {dots : List Dot} {c : Cluster} (hc : c ∈ ofDots dots) : c.members.Perm (nodesAt dots c.key) := by
  rw [congrArg members (mem_ofDots.mp hc).2]
  exact ascending_perm _

lemma members_ne_nil {dots : List Dot} {c : Cluster} (hc : c ∈ ofDots dots) : c.members ≠ [] := by
  intro he
  have hperm := members_perm hc
  rw [he] at hperm
  exact nodesAt_eq_nil.mp (List.nil_perm.mp hperm) (mem_ofDots.mp hc).1

lemma members_ascending {dots : List Dot} {c : Cluster} (hc : c ∈ ofDots dots) : c.members.Pairwise (· ≤ ·) := by
  rw [congrArg members (mem_ofDots.mp hc).2]
  exact pairwise_ascending _

lemma map_key_ofDots (dots : List Dot) : (ofDots dots).map (·.key) = (pixels dots).eraseDups := by
  rw [ofDots_eq, List.map_map]
  exact List.map_id _

lemma perm_place (k : Pixel) (n : Nat) (cs : List Cluster) :
    ((place k n cs).flatMap (·.members)).Perm (cs.flatMap (·.members) ++ [n]) := by
  induction cs with
  | nil => exact List.Perm.refl _
  | cons c cs ih =>
    rw [place]
    split
    · simp only [List.flatMap_cons, members_push, List.append_assoc]
      exact List.Perm.append_left _ List.perm_append_comm
    · simp only [List.flatMap_cons, List.append_assoc]
      exact List.Perm.append_left _ ih

lemma perm_placed (dots : List Dot) :
    ((placed dots).flatMap (·.members)).Perm ((dots.filter (·.pixel?.isSome)).map (·.node)) := by
  induction dots using List.reverseRecOn with
  | nil => exact List.Perm.refl _
  | append_singleton dots d ih =>
    rw [placed, List.foldl_concat, ← placed]
    cases hd : d.pixel? with
    | none => simpa [hd] using ih
    | some k => simpa [hd] using (perm_place k d.node _).trans (ih.append_right _)

lemma perm_ofDots (dots : List Dot) :
    ((ofDots dots).flatMap (·.members)).Perm ((dots.filter (·.pixel?.isSome)).map (·.node)) := by
  rw [ofDots_eq_map_placed, List.flatMap_map]
  exact (List.Perm.flatMap_left _ fun c _ => ascending_perm c.members).trans (perm_placed dots)

lemma ofDots_perm {dots dots' : List Dot} (h : dots'.Perm dots) : (ofDots dots').Perm (ofDots dots) := by
  have hkeys : (pixels dots').eraseDups.Perm (pixels dots).eraseDups := by
    apply (List.perm_ext_iff_of_nodup (nodup_pixels dots') (nodup_pixels dots)).mpr
    intro k
    rw [List.mem_eraseDups, List.mem_eraseDups]
    exact (h.filterMap _).mem_iff
  have hmembers : (fun k => ascending (nodesAt dots' k)) = fun k => ascending (nodesAt dots k) := by
    funext k
    exact ascending_congr ((h.filter _).map _)
  rw [ofDots_eq, ofDots_eq, hmembers]
  exact hkeys.map _

structure Partition (cs : List Cluster) (dots : List Dot) : Prop where
  key_iff : ∀ k, (∃ c ∈ cs, c.key = k) ↔ ∃ d ∈ dots, d.pixel? = some k
  distinct : (cs.map (·.key)).Nodup
  ordered : cs.Pairwise fun c c' => appearance dots c.key < appearance dots c'.key
  center_eq : ∀ c ∈ cs, c.center = c.key.center
  nonempty : ∀ c ∈ cs, c.members ≠ []
  ascending : ∀ c ∈ cs, c.members.Pairwise (· ≤ ·)
  members_perm : ∀ c ∈ cs, c.members.Perm ((dots.filter fun d => d.pixel? = some c.key).map (·.node))
  all_perm : (cs.flatMap (·.members)).Perm ((dots.filter (·.pixel?.isSome)).map (·.node))

/-- Dots are partitioned into clusters in the order in which their pixels appear, and the same clusters come of
the dots in any other order. -/
theorem ofDots_partition (dots : List Dot) :
    Partition (ofDots dots) dots ∧ ∀ dots', dots'.Perm dots → (ofDots dots').Perm (ofDots dots) := by
  refine ⟨⟨fun k => ?_, ?_, ?_, fun c hc => ?_, fun c => members_ne_nil, fun c => members_ascending,
    fun c => members_perm, perm_ofDots dots⟩, fun _ => ofDots_perm⟩
  · rw [← List.mem_map (f := Cluster.key), map_key_ofDots, List.mem_eraseDups]
    exact mem_pixels
  · rw [map_key_ofDots]
    exact nodup_pixels dots
  · have hkeys := pairwise_appearance dots
    rwa [← map_key_ofDots, List.pairwise_map] at hkeys
  · exact congrArg center (mem_ofDots.mp hc).2

theorem ofDots_partition_shuffled :
    let at_ (node : Nat) (x : Float) : Dot := ⟨node, ⟨x, Float.ofNat 7⟩, Float.ofNat 0⟩
    let dots := [at_ 2 (Float.ofNat 3), at_ 1 Number.nan, at_ 4 (Float.ofNat 9), at_ 0 (Float.ofScientific 25 true 1)]
    let dots' := [at_ 0 (Float.ofScientific 25 true 1), at_ 4 (Float.ofNat 9), at_ 1 Number.nan, at_ 2 (Float.ofNat 3)]
    dots'.Perm dots ∧ (ofDots dots').Perm (ofDots dots) ∧ (ofDots dots).map (·.members) = [[0, 2], [4]] := by
  intro at_ dots dots'
  have hperm : dots'.Perm dots := by decide +kernel
  exact ⟨hperm, (ofDots_partition dots).2 dots' hperm, by decide +kernel⟩

end Cluster

end Scene

end Toolpath
