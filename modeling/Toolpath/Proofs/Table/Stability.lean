import Toolpath.Proofs.Number.Reprint
import Toolpath.Proofs.Table.ReadBack

/-!
Regenerating a program that was regenerated. The lines that were kept are kept again, and the mode line is found
among them; the moves are the same lines again if their numbers print alike after they were read from the line.
-/

namespace Toolpath.Table

open Program Text

def regenerate (t : Text) : Text := ofRows (toRows t) t

namespace Row

def reprinted (r : Row) : Row :=
  { r with x := r.x.map (reread 2), y := r.y.map (reread 2), z := r.z.map (reread 2), feed := r.feed.map (reread 0) }

/-- No number of the row is infinite, and no coordinate creeps. -/
def Stable (r : Row) : Prop :=
  (∀ v, some v ∈ [r.x, r.y, r.z] → ¬ Number.IsInfinite v ∧ ¬ Number.Creeping v) ∧
    ∀ v, r.feed = some v → ¬ Number.IsInfinite v

lemma toLine_inj {r r' : Row} (hc : r.command = r'.command) : r.toLine = r'.toLine ↔ r.cells = r'.cells := by
  refine ⟨fun h => ?_, fun h => by rw [toLine_eq, toLine_eq, hc, h]⟩
  have hw := congrArg words h
  rw [words_toLine, words_toLine] at hw
  exact (List.cons.inj hw).2

lemma toLine_reprinted_iff (r : Row) : r.reprinted.toLine = r.toLine ↔ r.Stable := by
  have hc : r.reprinted.command = r.command := rfl
  rw [toLine_inj hc]
  rcases r with ⟨-, -, m, _ | x, _ | y, _ | z, _ | f⟩ <;>
    simp [cells, columns, reprinted, reread, Stable, Number.toFixed_reread_two_iff, Number.toFixed_reread_zero_iff,
      and_assoc]

end Row

def Carried (feed : Option Float) : List Row → Prop
  | [] => True
  | r :: rs => (r.x.isSome ∧ r.y.isSome ∧ r.z.isSome) ∧ (feed.isSome → r.feed.isSome) ∧ Carried r.feed rs

lemma Carried.mono {feed feed' : Option Float} (h : feed.isSome → feed'.isSome) {rows : List Row}
    (hr : Carried feed' rows) : Carried feed rows := by
  cases rows with
  | nil => exact trivial
  | cons r rs => exact ⟨hr.1, fun hf => hr.2.1 (h hf), hr.2.2⟩

lemma carried_rowsFrom (t : Tracker) (feed : Option Float) (ss : List Statement) :
    Carried feed (rowsFrom t feed ss) := by
  induction ss generalizing t feed with
  | nil => exact trivial
  | cons s ss ih =>
    have hfeed : feed.isSome → (feedAfter feed s).isSome := by
      intro h
      rw [feedAfter]
      split <;> simp [h]
    have hrest := ih (t.step s).2 (feedAfter feed s)
    rw [rowsFrom]
    cases hs : (t.step s).1 with
    | none => simpa [hs] using hrest.mono hfeed
    | some n => simpa [hs, Carried] using ⟨hfeed, hrest⟩

lemma map_toLine_readBack {feed : Option Float} {rows : List Row} (h : Carried feed rows) (p : Position)
    (index line : Nat) : (readBack p (feed.map (reread 0)) index line rows).map Row.toLine =
      rows.map fun r => r.reprinted.toLine := by
  induction rows generalizing feed p index line with
  | nil => rfl
  | cons r rs ih =>
    obtain ⟨hplaced, hf, hrest⟩ := h
    have hfeed : (r.feed.map (reread 0)).or (feed.map (reread 0)) = r.feed.map (reread 0) := by
      cases hr : r.feed with
      | some v => rfl
      | none => simpa [hr] using hf
    -- with all coordinates nothing is carried over from the place before
    have hsame : ∀ index line, Row.toLine ⟨index, line, r.command, some (r.placeAfter p).x, some (r.placeAfter p).y,
        some (r.placeAfter p).z, r.feed.map (reread 0)⟩ = r.reprinted.toLine := by
      obtain ⟨⟨x, hx⟩, ⟨y, hy⟩, ⟨z, hz⟩⟩ := hplaced.imp Option.isSome_iff_exists.mp
        (And.imp Option.isSome_iff_exists.mp Option.isSome_iff_exists.mp)
      simp [Row.toLine, Row.reprinted, Row.placeAfter, hx, hy, hz]
    have ha : r.hasAxis := by simp [Row.hasAxis, hplaced.1]
    rw [readBack, hfeed]
    simp only [ha, if_true, List.map_cons, hsame, ih hrest]

lemma isMotionLine_toLine (r : Row) : isMotionLine r.toLine := by
  rw [isMotionLine, r.kind_toLine]
  rfl

lemma preamble_ofRows {rows : List Row} (hne : rows ≠ []) (previous : Text) :
    preamble (ofRows rows previous) = preamble previous := by
  have hkept : (preamble previous).filter (fun l => !isMotionLine l) = preamble previous := by
    rw [List.filter_eq_self]
    intro l hl
    simpa using (mem_preamble hl).2
  have hmoves : (rows.map Row.toLine).filter (fun l => !isMotionLine l) = [] := by
    rw [List.filter_eq_nil_iff]
    intro l hl
    obtain ⟨r, -, rfl⟩ := List.mem_map.mp hl
    simp [isMotionLine_toLine]
  -- the mode line is among the lines that are kept, if it was not before
  have hmode : (preamble previous).any beginsAbsolute := by
    rw [preamble]
    split
    · rename_i h
      rw [List.any_append, h, Bool.true_or]
    · rw [List.any_append, Bool.or_eq_true]
      exact .inr (by decide)
  rw [preamble, lines_ofRows hne, List.filter_append, hkept, hmoves, List.append_nil]
  simp [hmode]

/-- A regenerated program is regenerated to itself if and only if no number of its rows is infinite and no
coordinate creeps. -/
theorem regenerate_regenerate_iff (t : Text) :
    regenerate (regenerate t) = regenerate t ↔ ∀ r ∈ toRows t, r.Stable := by
  by_cases hne : toRows t = []
  · have ht : regenerate t = t := by rw [regenerate, hne]; rfl
    simp [ht, hne]
  have hlines : (toRows (regenerate t)).map Row.toLine = (toRows t).map fun r => r.reprinted.toLine := by
    rw [regenerate, toRows_ofRows_eq_readBack hne]
    exact map_toLine_readBack (carried_rowsFrom _ none _) _ _ _
  have hne' : toRows (regenerate t) ≠ [] := by
    intro h
    rw [h] at hlines
    exact hne (List.map_eq_nil_iff.mp hlines.symm)
  have hsame : regenerate (regenerate t) = regenerate t ↔
      ((toRows t).map fun r => r.reprinted.toLine) = (toRows t).map Row.toLine := by
    constructor
    · intro h
      have hl := congrArg lines h
      conv_rhs at hl => rw [regenerate, lines_ofRows hne]
      rw [regenerate, lines_ofRows hne', hlines, regenerate, preamble_ofRows hne] at hl
      exact List.append_cancel_left hl
    · intro h
      rw [regenerate, ofRows_eq hne', hlines, h, regenerate, preamble_ofRows hne, ofRows_eq hne]
  rw [hsame, List.map_inj_left]
  exact forall₂_congr fun r _ => r.toLine_reprinted_iff

def overflowing : Text := "G1 X1e999".toList

def creeping : Text := "G1 X35184372088832.016".toList

theorem regenerate_regenerate_ne :
    (regenerate overflowing = "G90 ; absolute positioning\nG1 Xinf Y0.00 Z0.00".toList ∧
      regenerate (regenerate overflowing) = "G90 ; absolute positioning\nG1 XNaN Y0.00 Z0.00".toList ∧
      regenerate (regenerate overflowing) ≠ regenerate overflowing) ∧
    (regenerate creeping = "G90 ; absolute positioning\nG1 X35184372088832.02 Y0.00 Z0.00".toList ∧
      regenerate (regenerate creeping) = "G90 ; absolute positioning\nG1 X35184372088832.03 Y0.00 Z0.00".toList ∧
      regenerate (regenerate creeping) ≠ regenerate creeping) := by
  -- An infinite number is written as a word that is read as no number, and a creeping one gains a hundredth.
  decide +kernel

end Toolpath.Table
