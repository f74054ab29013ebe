import Mathlib.Data.List.TakeDrop
import Mathlib.Data.List.TakeWhile
import Toolpath.Proofs.Text.Pieces
import Toolpath.Proofs.Number.Printed
import Toolpath.Table.Row

/-!
Regenerated programs. Each row is written as a line that is read again as its command and its cells, and
the lines that are kept are no motions, so that a regenerated program has as many rows as were written.
-/

namespace Toolpath.Program

open Text

lemma Line.ofCode_congr {a b : Text} (h : words a = words b) (comment : Option Text) :
    Line.ofCode a comment = Line.ofCode b comment := by
  simp only [Line.ofCode, h]

lemma splitComment_of_no_comment {t : Text} (h : ';' ∉ t) : splitComment t = (trim t, none) := by
  have hall : ∀ c ∈ t, decide (c ≠ ';') = true := fun c hc => decide_eq_true fun he => h (he ▸ hc)
  have hs : t.span (· ≠ ';') = (t, []) := by
    rw [List.span_eq_takeWhile_dropWhile, List.takeWhile_eq_self_iff.mpr hall,
      List.dropWhile_eq_nil_iff.mpr hall]
  simp only [splitComment, hs]

lemma Line.read_of_no_comment {t : Text} (h : ';' ∉ t) : Line.read t = Line.ofCode t none := by
  rw [Line.read, splitComment_of_no_comment fun hc => h (mem_of_mem_trim hc)]
  exact Line.ofCode_congr (by simp) none

lemma isInert_cons {c : Char} (hb : ¬ isBlank c) (hc : c ≠ ';') (t : Text) : isInert (c :: t) = false := by
  obtain ⟨r, hr⟩ := trim_cons hb t
  simp [isInert, hr, hc]

def Line.isMove (l : Line) : Bool := l.kind.motion?.isSome && l.axisWords.hasAxis

lemma Tracker.isSome_step (t : Tracker) (s : Statement) : (t.step s).1.isSome = s.content.isMove := by
  rw [Tracker.step, Line.isMove]
  split
  · rename_i h
    simp [show s.content.kind.motion? = none from h]
  · rename_i m h
    simp only [show s.content.kind.motion? = some m from h, Option.isSome_some, Bool.true_and]
    split
    · rename_i ha; exact ha.symm
    · rename_i ha; exact (Bool.eq_false_iff.mpr ha).symm

end Toolpath.Program

namespace Toolpath.Table

open Program Text

namespace Row

def hasAxis (r : Row) : Bool := r.x.isSome || r.y.isSome || r.z.isSome

def columns (r : Row) : List (Char × Nat × Option Float) :=
  [('X', 2, r.x), ('Y', 2, r.y), ('Z', 2, r.z), ('F', 0, r.feed)]

def cells (r : Row) : List Text := r.columns.filterMap fun (a, n, v) => v.map fun v => a :: Number.toFixed v n

def parameters (r : Row) : List Parameter :=
  r.columns.filterMap fun (a, n, v) => v.map fun v => ⟨a, Number.parseNumber (Number.toFixed v n)⟩

lemma toLine_eq (r : Row) : r.toLine = join [' '] (r.command.mnemonic :: r.cells) := by
  rw [join_cons]
  rcases r with ⟨-, -, m, _ | x, _ | y, _ | z, _ | f⟩ <;> simp [toLine, cells, columns, word]

lemma plain_cell {r : Row} {w : Text} (h : w ∈ r.cells) : w ≠ [] ∧ ∀ c ∈ w, ¬ isBlank c ∧ c ≠ ';' := by
  obtain ⟨⟨a, n, v⟩, hm, hw⟩ := List.mem_filterMap.mp h
  obtain ⟨x, -, rfl⟩ := Option.map_eq_some_iff.mp hw
  refine ⟨List.cons_ne_nil _ _, fun c hc => ?_⟩
  rcases List.mem_cons.mp hc with rfl | hc
  · have hletters : ∀ a ∈ ['X', 'Y', 'Z', 'F'], ¬ isBlank a ∧ a ≠ ';' := List.all_iff_forall_prop.mp (by decide)
    have ha : c ∈ r.columns.map (·.1) := List.mem_map_of_mem hm
    exact hletters c ha
  · exact (Number.printed_toFixed x n c hc).not_blank

lemma plain_word {r : Row} {w : Text} (h : w ∈ r.command.mnemonic :: r.cells) :
    w ≠ [] ∧ ∀ c ∈ w, ¬ isBlank c ∧ c ≠ ';' := by
  rcases List.mem_cons.mp h with rfl | h
  · cases r.command <;> exact ⟨List.cons_ne_nil _ _, List.all_iff_forall_prop.mp (by decide)⟩
  · exact plain_cell h

lemma words_toLine (r : Row) : words r.toLine = r.command.mnemonic :: r.cells := by
  rw [toLine_eq, words_join]
  intro w hw
  obtain ⟨hne, hc⟩ := plain_word hw
  exact ⟨hne, fun c h => (hc c h).1⟩

lemma mem_toLine {r : Row} {c : Char} (h : c ∈ r.toLine) : c ≠ ';' ∧ c ≠ '\n' := by
  rw [toLine_eq] at h
  rcases mem_join h with h | ⟨w, hw, hc⟩
  · rw [List.mem_singleton.mp h]
    decide
  · obtain ⟨hb, hs⟩ := (plain_word hw).2 c hc
    refine ⟨hs, ?_⟩
    rintro rfl
    exact hb (by decide)

lemma filterMap_cells (r : Row) : r.cells.filterMap Parameter.read? = r.parameters := by
  rcases r with ⟨-, -, m, _ | x, _ | y, _ | z, _ | f⟩ <;> rfl

theorem read_toLine (r : Row) : Line.read r.toLine = ⟨some r.command.mnemonic, r.parameters, none⟩ := by
  rw [Line.read_of_no_comment fun h => (mem_toLine h).1 rfl, Line.ofCode, words_toLine]
  have hu : upper r.command.mnemonic = r.command.mnemonic := by cases r.command <;> decide
  have hc : isCommand r.command.mnemonic := by cases r.command <;> decide
  simp only [hu, hc, if_true, filterMap_cells]

theorem axisWords_toLine (r : Row) :
    (Line.read r.toLine).axisWords =
      ⟨r.x.map fun v => Number.parseNumber (Number.toFixed v 2),
        r.y.map fun v => Number.parseNumber (Number.toFixed v 2),
        r.z.map fun v => Number.parseNumber (Number.toFixed v 2),
        r.feed.map fun v => Number.parseNumber (Number.toFixed v 0)⟩ := by
  rw [read_toLine]
  rcases r with ⟨-, -, m, _ | x, _ | y, _ | z, _ | f⟩ <;> rfl

lemma kind_toLine (r : Row) : (Line.read r.toLine).kind = .motion r.command := by
  rw [read_toLine, Line.kind]
  cases r.command <;> rfl

lemma isMove_toLine (r : Row) : (Line.read r.toLine).isMove = r.hasAxis := by
  simp [Line.isMove, kind_toLine, axisWords_toLine, AxisWords.hasAxis, hasAxis, Command.motion?]

lemma isInert_toLine (r : Row) : isInert r.toLine = false := by
  rw [toLine_eq, join_cons]
  cases r.command <;> exact isInert_cons (by decide) (by decide) _

end Row

def preamble (previous : Text) : List Text :=
  let kept := (lines previous).filter fun l => !isMotionLine l
  kept ++ if kept.any beginsAbsolute then [] else [absoluteLine]

lemma mem_preamble {previous l : Text} (h : l ∈ preamble previous) : '\n' ∉ l ∧ ¬ isMotionLine l := by
  rcases List.mem_append.mp h with h | h
  · obtain ⟨hl, hm⟩ := List.mem_filter.mp h
    exact ⟨newline_not_mem_lines hl, by simpa using hm⟩
  · split at h
    · cases h
    · rw [List.mem_singleton.mp h]
      decide

lemma ofRows_eq {rows : List Row} (hne : rows ≠ []) (previous : Text) :
    ofRows rows previous = unlines (preamble previous ++ rows.map Row.toLine) := by
  simp [ofRows, preamble, hne]

theorem lines_ofRows {rows : List Row} (hne : rows ≠ []) (previous : Text) :
    lines (ofRows rows previous) = preamble previous ++ rows.map Row.toLine := by
  rw [ofRows_eq hne, lines_unlines]
  · simp [hne]
  · intro l hl
    rcases List.mem_append.mp hl with hl | hl
    · exact (mem_preamble hl).1
    · obtain ⟨r, -, rfl⟩ := List.mem_map.mp hl
      exact fun hn => (Row.mem_toLine hn).2 rfl

lemma length_rowsFrom (t : Tracker) (feed : Option Float) (ss : List Statement) :
    (rowsFrom t feed ss).length = ss.countP fun s => s.content.isMove := by
  induction ss generalizing t feed with
  | nil => rfl
  | cons s ss ih =>
    rw [rowsFrom, List.countP_cons]
    dsimp only
    rw [List.length_append, ih, Nat.add_comm, ← t.isSome_step s]
    congr 1
    cases (t.step s).1 <;> rfl

theorem length_toRows (t : Text) :
    (toRows t).length = (lines t).countP fun l => !isInert l && (Line.read l).isMove := by
  rw [toRows, length_rowsFrom, statements, Statement.ofLines, List.countP_filterMap]
  have hz := congrArg (List.countP fun l => !isInert l && (Line.read l).isMove) (List.zipIdx_map_fst 0 (lines t))
  rw [← hz, List.countP_map]
  congr 1
  funext ⟨l, n⟩
  cases hi : isInert l <;> simp [hi]

theorem length_toRows_ofRows {rows : List Row} (hne : rows ≠ []) (previous : Text) :
    (toRows (ofRows rows previous)).length = rows.countP Row.hasAxis := by
  rw [length_toRows, lines_ofRows hne, List.countP_append, List.countP_map]
  have h₁ : (preamble previous).countP (fun l => !isInert l && (Line.read l).isMove) = 0 := by
    rw [List.countP_eq_zero]
    intro l hl
    have hm := (mem_preamble hl).2
    simp only [isMotionLine] at hm
    simp [Line.isMove, hm]
  have h₂ : (fun l => !isInert l && (Line.read l).isMove) ∘ Row.toLine = Row.hasAxis := by
    funext r
    simp [Row.isInert_toLine, Row.isMove_toLine]
  rw [h₁, h₂, Nat.zero_add]

lemma hasAxis_of_mem_rowsFrom {t : Tracker} {feed : Option Float} {ss : List Statement} {r : Row}
    (h : r ∈ rowsFrom t feed ss) : r.hasAxis := by
  induction ss generalizing t feed with
  | nil => cases h
  | cons s ss ih =>
    rw [rowsFrom] at h
    rcases List.mem_append.mp h with h | h
    · obtain ⟨n, -, rfl⟩ := Option.map_eq_some_iff.mp (Option.mem_toList.mp h)
      rfl
    · exact ih h

lemma hasAxis_of_mem_toRows {t : Text} {r : Row} (h : r ∈ toRows t) : r.hasAxis := hasAxis_of_mem_rowsFrom h

end Toolpath.Table
