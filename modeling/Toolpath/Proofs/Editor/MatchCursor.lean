import Mathlib.Data.List.Rotate
import Toolpath.Proofs.Editor.Freshness

/-!
The current match as a cursor on a circle. Whatever is searched for, and however the cursor is moved, it stands on
one of the matches if there are any. A step forward and a step back undo each other, and as many steps as there are
matches lead past each of them to the one where they began.
-/

namespace Toolpath.Editor.Search

open Pattern

inductive Step
  | run (t query : Text) (o : SearchOptions)
  | refresh (t : Text)
  | next
  | previous
  | clear
  deriving DecidableEq, Repr

def answer (r : Except InvalidExpression Nat) : Response := .ofExcept .count (r.mapError .search)

def perform (s : Search) : Step → Response × Search
  | .run t query o => (run t query o).map answer id
  | .refresh t => (s.refresh t).map answer id
  | .next => s.next.map .found id
  | .previous => s.previous.map .found id
  | .clear => (.done, none)

def reached (steps : List Step) : Search := steps.foldl (fun s x => (s.perform x).2) none

def forward (s : Search) : Nat → List (Option Match) × Search
  | 0 => ([], s)
  | n + 1 => (s.next.1 :: (s.next.2.forward n).1, (s.next.2.forward n).2)

/-- Steps undo each other, and a round visits every match once and comes back. -/
structure Cycles (s : Search) : Prop where
  previous_next : s.next.2.previous.2 = s
  next_previous : s.previous.2.next.2 = s
  visits : ∀ x, x ∈ (s.forward s.found.length).1 ↔ ∃ m ∈ s.found, some m = x
  once : (s.forward s.found.length).1.Nodup
  last : (s.forward s.found.length).1.getLast? = some s.currentMatch
  back : (s.forward s.found.length).2 = s

variable {s : Search} {i n : Nat} {x : Step}

def point (s : Search) (i : Nat) : Search := { s with current := some i }

lemma point_self (h : s.current = some i) : s.point i = s := by
  rw [point, ← h]

lemma next_point (hn : s.found ≠ []) (i : Nat) :
    (s.point i).next = (s.found[(i + 1) % s.found.length]?, s.point ((i + 1) % s.found.length)) :=
  if_neg (mt List.length_eq_zero_iff.mp hn)

lemma previous_point (hn : s.found ≠ []) (i : Nat) :
    (s.point i).previous = (s.found[(i + s.found.length - 1) % s.found.length]?,
      s.point ((i + s.found.length - 1) % s.found.length)) :=
  if_neg (mt List.length_eq_zero_iff.mp hn)

lemma next_of_nil (hn : s.found = []) : s.next = (Option.none, s) := if_pos (by rw [hn]; rfl)

lemma previous_of_nil (hn : s.found = []) : s.previous = (Option.none, s) := if_pos (by rw [hn]; rfl)

-- On a circle of `n` places one step back leads from the first to the last, and one step on from the last to the first.
lemma pred_mod (hi : i < n) : (i + n - 1) % n = if i = 0 then n - 1 else i - 1 := by
  split
  · rename_i h
    rw [h, Nat.zero_add]
    exact Nat.mod_eq_of_lt (by omega)
  · rw [show i + n - 1 = i - 1 + n by omega, Nat.add_mod_right, Nat.mod_eq_of_lt (by omega)]

lemma succ_mod (hi : i < n) : (i + 1) % n = if i + 1 = n then 0 else i + 1 := by
  split
  · rename_i h
    rw [h, Nat.mod_self]
  · rw [Nat.mod_eq_of_lt (by omega)]

lemma pred_succ_mod (hi : i < n) : ((i + 1) % n + n - 1) % n = i := by
  by_cases h : i + 1 = n
  · rw [succ_mod hi, if_pos h, pred_mod (Nat.zero_lt_of_lt hi), if_pos rfl]
    omega
  · rw [succ_mod hi, if_neg h, pred_mod (by omega), if_neg (Nat.succ_ne_zero i), Nat.add_sub_cancel]

lemma succ_pred_mod (hi : i < n) : ((i + n - 1) % n + 1) % n = i := by
  by_cases h : i = 0
  · rw [pred_mod hi, if_pos h, succ_mod (by omega), if_pos (by omega)]
    exact h.symm
  · rw [pred_mod hi, if_neg h, succ_mod (by omega), if_neg (by omega)]
    omega

-- By induction on the number of steps, for any place of the cursor: what follows the first step is a shorter run from
-- the next place, and remainders of places add up.
lemma forward_point (hn : s.found ≠ []) (hi : i < s.found.length) (k : Nat) :
    (s.point i).forward k =
      ((List.range k).map fun j => s.found[(j + (i + 1)) % s.found.length]?, s.point ((i + k) % s.found.length)) := by
  induction k generalizing i with
  | zero => exact Prod.ext rfl (congrArg s.point (Nat.mod_eq_of_lt hi).symm)
  | succ k ih =>
    have hlt : (i + 1) % s.found.length < s.found.length := Nat.mod_lt _ (List.length_pos_of_ne_nil hn)
    have hshift : ∀ j, (j + ((i + 1) % s.found.length + 1)) % s.found.length =
        (j + 1 + (i + 1)) % s.found.length := by
      intro j
      rw [Nat.add_comm _ 1, ← Nat.add_assoc, Nat.add_mod_mod]
    have hend : ((i + 1) % s.found.length + k) % s.found.length = (i + (k + 1)) % s.found.length := by
      rw [Nat.mod_add_mod, Nat.add_assoc, Nat.add_comm 1]
    rw [forward, next_point hn, ih hlt, hend, List.range_succ_eq_map, List.map_cons, List.map_map, Nat.zero_add]
    simp only [hshift, Function.comp_def, Nat.succ_eq_add_one]

lemma forward_round (hn : s.found ≠ []) (hi : i < s.found.length) :
    (s.point i).forward s.found.length = ((s.found.rotate (i + 1)).map some, s.point i) := by
  rw [forward_point hn hi, Nat.add_mod_right, Nat.mod_eq_of_lt hi]
  congr 1
  refine List.ext_getElem (by simp) fun j hj hj' => ?_
  have hlt : (j + (i + 1)) % s.found.length < s.found.length := Nat.mod_lt _ (List.length_pos_of_ne_nil hn)
  rw [List.getElem_map, List.getElem_range, List.getElem_map, List.getElem_rotate, List.getElem?_eq_getElem hlt]

structure Sound (s : Search) : Prop where
  pointed : s.Pointed
  unpointed : s.found = [] → s.current = Option.none
  failed : s.error.isSome → s.found = []
  distinct : s.found.Nodup

lemma Pointed.exists_lt (h : s.Pointed) (hn : s.found ≠ []) : ∃ i < s.found.length, s.current = some i := by
  obtain ⟨m, -, hm⟩ := h hn
  obtain ⟨i, hi, hf⟩ := Option.bind_eq_some_iff.mp hm
  exact ⟨i, (List.getElem?_eq_some_iff.mp hf).1, hi⟩

lemma nodup_findMatches {t query : Text} {o : SearchOptions} {ms : List Match} (h : findMatches t query o = .ok ms) :
    ms.Nodup := by
  refine (pairwise_findMatches h).imp_of_mem ?_
  rintro m m' hm - hle rfl
  exact Nat.not_lt_of_le hle (findMatches_within h m hm).1

lemma sound_none : none.Sound := ⟨pointed_none, fun _ => rfl, fun _ => rfl, .nil⟩

lemma sound_run (t query : Text) (o : SearchOptions) : (run t query o).2.Sound := by
  have hp := pointed_run t query o
  rw [run] at hp ⊢
  cases hf : findMatches t query o with
  | ok ms =>
    rw [hf] at hp
    exact ⟨hp, fun hn => if_pos (List.isEmpty_iff.mpr hn), fun h => absurd h Bool.false_ne_true, nodup_findMatches hf⟩
  | error e =>
    rw [hf] at hp
    exact ⟨hp, fun _ => rfl, fun _ => rfl, .nil⟩

lemma Sound.point (h : s.Sound) (hi : i < s.found.length) : (s.point i).Sound :=
  ⟨pointed_of_lt hi, fun hn => absurd hi (by rw [show s.found = [] from hn]; exact Nat.not_lt_zero i), h.failed,
    h.distinct⟩

lemma Sound.next (h : s.Sound) : s.next.2.Sound := by
  by_cases hn : s.found = []
  · rw [next_of_nil hn]
    exact h
  · obtain ⟨i, hi, hc⟩ := h.pointed.exists_lt hn
    rw [← point_self hc, next_point hn]
    exact h.point (Nat.mod_lt _ (List.length_pos_of_ne_nil hn))

lemma Sound.previous (h : s.Sound) : s.previous.2.Sound := by
  by_cases hn : s.found = []
  · rw [previous_of_nil hn]
    exact h
  · obtain ⟨i, hi, hc⟩ := h.pointed.exists_lt hn
    rw [← point_self hc, previous_point hn]
    exact h.point (Nat.mod_lt _ (List.length_pos_of_ne_nil hn))

lemma found_of_failed_run {t query : Text} {o : SearchOptions} {e : EditorError}
    (h : answer (run t query o).1 = .failed e) : (run t query o).2.found = [] := by
  rw [run] at h ⊢
  cases hf : findMatches t query o with
  | ok ms =>
    rw [hf] at h
    cases h
  | error e => rfl

lemma found_of_failed {e : EditorError} (h : (s.perform x).1 = .failed e) : (s.perform x).2.found = [] := by
  cases x with
  | run t query o => exact found_of_failed_run h
  | refresh t => exact found_of_failed_run h
  | next => cases h
  | previous => cases h
  | clear => cases h

lemma Sound.perform (h : s.Sound) (x : Step) : (s.perform x).2.Sound := by
  cases x with
  | run t query o => exact sound_run t query o
  | refresh t => exact sound_run t s.query s.options
  | next => exact h.next
  | previous => exact h.previous
  | clear => exact sound_none

lemma sound_reached (steps : List Step) : (reached steps).Sound := by
  induction steps using List.reverseRecOn with
  | nil => exact sound_none
  | append_singleton steps x ih =>
    rw [reached, List.foldl_concat]
    exact ih.perform x

lemma Sound.cycles (h : s.Sound) (hn : s.found ≠ []) : s.Cycles := by
  obtain ⟨i, hi, hc⟩ := h.pointed.exists_lt hn
  have hround := forward_round hn hi
  rw [point_self hc] at hround
  refine ⟨?_, ?_, fun x => ?_, ?_, ?_, by rw [hround]⟩
  · rw [← point_self hc, next_point hn, previous_point hn]
    exact congrArg s.point (pred_succ_mod hi)
  · rw [← point_self hc, previous_point hn, next_point hn]
    exact congrArg s.point (succ_pred_mod hi)
  · rw [hround, List.mem_map]
    simp only [List.mem_rotate]
  · rw [hround]
    exact (List.nodup_rotate.mpr h.distinct).map fun _ _ => Option.some.inj
  · have hend : (s.found.length - 1 + (i + 1)) % s.found.length = i := by
      rw [show s.found.length - 1 + (i + 1) = i + s.found.length by omega, Nat.add_mod_right, Nat.mod_eq_of_lt hi]
    have hcur : s.currentMatch = some s.found[i] := by
      rw [currentMatch, hc]
      exact List.getElem?_eq_getElem hi
    rw [hround, List.getLast?_map, List.getLast?_eq_getElem?, List.length_rotate, List.getElem?_rotate (by omega), hend,
      List.getElem?_eq_getElem hi, hcur]
    rfl

/-- Wherever steps have led, the cursor stands on a match if there are any and nowhere if there are none, as after a
search that failed. With matches it goes around in a circle of all of them. -/
theorem cursor_of_steps (steps : List Step) :
    let s := reached steps
    (s.found ≠ [] → ∃ i < s.found.length, s.current = some i) ∧ (s.found = [] → s.current = Option.none) ∧
    (s.error.isSome → s.found = []) ∧
    (∀ x e, (s.perform x).1 = .failed e → (s.perform x).2.found = []) ∧
    (s.found ≠ [] → s.Cycles) := by
  intro s
  have h : s.Sound := sound_reached steps
  exact ⟨h.pointed.exists_lt, h.unpointed, h.failed, fun x e => found_of_failed, h.cycles⟩

example :
    let s := (run "a a a".toList "a".toList .default).2
    (s.forward 3).1 = [some ⟨2, 3⟩, some ⟨4, 5⟩, some ⟨0, 1⟩] ∧ s.previous.1 = some ⟨4, 5⟩ := by
  decide +kernel

end Toolpath.Editor.Search
