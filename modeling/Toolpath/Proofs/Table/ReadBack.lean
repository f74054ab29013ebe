import Toolpath.Proofs.Program.LastWriter
import Toolpath.Proofs.Table.Regenerate

/-!
Reading a regenerated program. The moves that the rows stand for are the only moves there, so that the rows
that come back are the rows that went in, with printed values, carried coordinates and the carried feed.
-/

namespace Toolpath.Table

open Program Text

def reread (places : Nat) (v : Float) : Float := Number.parseNumber (Number.toFixed v places)

namespace Row

def placeAfter (r : Row) (p : Position) : Position :=
  ⟨(r.x.map (reread 2)).getD p.x, (r.y.map (reread 2)).getD p.y, (r.z.map (reread 2)).getD p.z⟩

end Row

/-- Walks over rows that stand on the lines from `line` on, from a place, a feed and the next index. -/
def readBack (p : Position) (feed : Option Float) (index line : Nat) : List Row → List Row
  | [] => []
  | r :: rs =>
    let feed := (r.feed.map (reread 0)).or feed
    if r.hasAxis then
      let p := r.placeAfter p
      ⟨index, some line, r.command, some p.x, some p.y, some p.z, feed⟩ :: readBack p feed (index + 1) (line + 1) rs
    else readBack p feed index (line + 1) rs

def firstMove (previous : Text) : Nat :=
  let kept := (lines previous).filter fun l => !isMotionLine l
  kept.length + if kept.any beginsAbsolute then 0 else 1

lemma length_preamble (previous : Text) : (preamble previous).length = firstMove previous := by
  simp only [preamble, firstMove, List.length_append]
  split <;> rfl

lemma rowsFrom_append_other (t : Tracker) (feed : Option Float) {ss : List Statement}
    (h : ∀ s ∈ ss, s.kind.motion? = none) (ss' : List Statement) :
    rowsFrom t feed (ss ++ ss') = rowsFrom t feed ss' := by
  induction ss with
  | nil => rfl
  | cons s ss ih =>
    have hs := h s List.mem_cons_self
    have hstep : t.step s = (none, t) := by simp only [Tracker.step, hs]
    have hfeed : feedAfter feed s = feed := by simp [feedAfter, hs]
    rw [List.cons_append, rowsFrom, hstep, hfeed]
    exact ih fun s' hs' => h s' (List.mem_cons_of_mem _ hs')

lemma motion?_preamble {previous : Text} {s : Statement}
    (h : s ∈ Statement.ofLines (preamble previous).zipIdx) : s.kind.motion? = none := by
  obtain ⟨⟨l, n⟩, hl, hs⟩ := List.mem_filterMap.mp h
  have hm := (mem_preamble (List.fst_mem_of_mem_zipIdx hl)).2
  rw [isMotionLine, Bool.not_eq_true, Option.isSome_eq_false_iff, Option.isNone_iff_eq_none] at hm
  dsimp only at hs
  split at hs
  · cases hs
  · cases hs
    exact hm

lemma step_toLine (t : Tracker) (l : Nat) (r : Row) :
    t.step ⟨l, r.toLine, .read r.toLine⟩ =
      if r.hasAxis then
        (some ⟨t.count, l, r.placeAfter t.position, r.command⟩, ⟨r.placeAfter t.position, t.count + 1⟩)
      else (none, t) := by
  have ha : (Line.read r.toLine).axisWords.hasAxis = r.hasAxis := by
    simp [r.axisWords_toLine, AxisWords.hasAxis, Row.hasAxis]
  simp only [Tracker.step, Statement.kind_mk, r.kind_toLine, Command.motion?, ha]
  rw [r.axisWords_toLine]
  rfl

lemma feedAfter_toLine (feed : Option Float) (l : Nat) (r : Row) :
    feedAfter feed ⟨l, r.toLine, .read r.toLine⟩ = (r.feed.map (reread 0)).or feed := by
  have hf : (Line.read r.toLine).axisWords.feed = r.feed.map (reread 0) := by
    rw [r.axisWords_toLine]
    rfl
  simp only [Line.axisWords] at hf
  simp only [feedAfter, Statement.kind_mk, r.kind_toLine, hf, Command.motion?, Option.isSome_some, if_true]

theorem rowsFrom_toLine (t : Tracker) (feed : Option Float) (line : Nat) (rows : List Row) :
    rowsFrom t feed (Statement.ofLines ((rows.map Row.toLine).zipIdx line)) =
      readBack t.position feed t.count line rows := by
  induction rows generalizing t feed line with
  | nil => rfl
  | cons r rs ih =>
    rw [List.map_cons, List.zipIdx_cons, ofLines_cons r.isInert_toLine, rowsFrom, feedAfter_toLine, step_toLine,
      readBack]
    cases hr : r.hasAxis with
    | true =>
      have hrest := ih ⟨r.placeAfter t.position, t.count + 1⟩ ((r.feed.map (reread 0)).or feed) (line + 1)
      simp only [if_true, hrest]
      rfl
    | false =>
      have hrest := ih t ((r.feed.map (reread 0)).or feed) (line + 1)
      simp only [Bool.false_eq_true, if_false, hrest]
      rfl

lemma line_of_mem_readBack {p : Position} {feed : Option Float} {index line : Nat} {rows : List Row} {r : Row}
    (h : r ∈ readBack p feed index line rows) :
    ∃ i r', rows[i]? = some r' ∧ r'.hasAxis ∧ r.line = some (line + i) := by
  induction rows generalizing p feed index line with
  | nil => cases h
  | cons r' rs ih =>
    have hnext : ∀ {p feed index}, r ∈ readBack p feed index (line + 1) rs →
        ∃ i r'', (r' :: rs)[i]? = some r'' ∧ r''.hasAxis ∧ r.line = some (line + i) := by
      intro p feed index h
      obtain ⟨i, r'', hi, ha, hl⟩ := ih h
      exact ⟨i + 1, r'', hi, ha, by rw [hl]; congr 1; omega⟩
    rw [readBack] at h
    dsimp only at h
    split at h
    · rename_i ha
      rcases List.mem_cons.mp h with rfl | h
      · exact ⟨0, r', rfl, ha, rfl⟩
      · exact hnext h
    · exact hnext h

lemma toRows_ofRows_eq_readBack {rows : List Row} (hne : rows ≠ []) (previous : Text) :
    toRows (ofRows rows previous) = readBack .origin none 0 (firstMove previous) rows := by
  rw [toRows, statements, lines_ofRows hne, List.zipIdx_append, Statement.ofLines, List.filterMap_append,
    ← Statement.ofLines, ← Statement.ofLines, rowsFrom_append_other _ _ fun s => motion?_preamble,
    rowsFrom_toLine, Nat.zero_add, length_preamble]
  rfl

/-- The rows of a regenerated program are the walk over the rows that it was made of, and each of them comes
from the line that such a row was written as. -/
theorem toRows_ofRows {rows : List Row} (hne : rows ≠ []) (previous : Text) :
    toRows (ofRows rows previous) = readBack .origin none 0 (firstMove previous) rows ∧
      ∀ r ∈ toRows (ofRows rows previous),
        ∃ i r', rows[i]? = some r' ∧ r'.hasAxis ∧ r.line = some (firstMove previous + i) := by
  have heq := toRows_ofRows_eq_readBack hne previous
  exact ⟨heq, fun r hr => line_of_mem_readBack (heq ▸ hr)⟩

def feedThenMove : List Row :=
  [⟨0, none, .rapid, none, none, none, some (Float.ofNat 1500)⟩,
    ⟨1, none, .linear, none, some (Float.ofNat 2), none, none⟩]

theorem toRows_ofRows_feedThenMove :
    feedThenMove ≠ [] ∧ toRows (ofRows feedThenMove "M3\nG1 X9".toList) =
      [⟨0, some 3, .linear, some (Float.ofNat 0), some (Float.ofNat 2), some (Float.ofNat 0),
        some (Float.ofNat 1500)⟩] := by
  have hne : feedThenMove ≠ [] := List.cons_ne_nil _ _
  refine ⟨hne, ?_⟩
  rw [(toRows_ofRows hne _).1]
  decide +kernel

end Toolpath.Table
