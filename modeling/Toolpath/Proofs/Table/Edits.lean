import Toolpath.Table.Model
import Toolpath.Proofs.Table.LastFeed
import Toolpath.Proofs.Table.Regenerate

/-!
Edits of a table. Each of them does one thing to the rows: a row is appended, the selected one is removed, one cell
is set, or all rows are taken from a text. The rest keeps its order and what it holds, the rows stay numbered by
their places, and the selection stays on a row that exists.
-/

namespace Toolpath.Table

structure Row.SetsAlone (r r' : Row) (f : Field) (v : Option Float) : Prop where
  index : r'.index = r.index
  line : r'.line = r.line
  command : r'.command = r.command
  cells : ∀ g, r'.get g = if g = f then v else r.get g

lemma Row.set_get (r : Row) (f : Field) (v : Option Float) : (r.set f v).get f = v := by cases f <;> rfl

lemma Row.set_eq_self {r : Row} {f : Field} {v : Option Float} (h : r.get f = v) : r.set f v = r := by
  subst h
  cases f <;> rfl

lemma modify_set_eq_iff {rows : List Row} {row : Nat} {old : Row} (h : rows[row]? = some old) (f : Field)
    (v : Option Float) : rows.modify row (·.set f v) = rows ↔ old.get f = v := by
  constructor
  · intro he
    have hr : (rows.modify row (·.set f v))[row]? = some (old.set f v) := by
      rw [List.getElem?_modify_eq, h]
      rfl
    rw [he, h, Option.some.injEq] at hr
    rw [hr, Row.set_get]
  · intro he
    refine List.ext_getElem? fun i => ?_
    by_cases hi : row = i
    · subst hi
      rw [List.getElem?_modify_eq, h]
      exact congrArg some (Row.set_eq_self he)
    · exact List.getElem?_modify_ne _ _ hi

lemma Row.setsAlone (r : Row) (f : Field) (v : Option Float) : r.SetsAlone (r.set f v) f v := by
  refine ⟨?_, ?_, ?_, fun g => ?_⟩
  · cases f <;> rfl
  · cases f <;> rfl
  · cases f <;> rfl
  · cases f <;> cases g <;> rfl

lemma index_of_getElem?_toRows {t : Text} {i : Nat} {r : Row} (h : (toRows t)[i]? = some r) : r.index = i := by
  rw [toRows_eq, List.getElem?_mapIdx, Option.map_eq_some_iff] at h
  obtain ⟨move, -, rfl⟩ := h
  rfl

namespace Model

inductive Step
  | select (row : Nat)
  | addRow
  | deleteSelected
  | updateCell (row : Nat) (f : Field) (typed : Text)
  | refresh (t : Text)
  deriving DecidableEq, Repr

def after (m : Model) : Step → Model
  | .select row => (m.select row).2
  | .addRow => m.addRow.2
  | .deleteSelected => m.deleteSelected.2
  | .updateCell row f typed => (m.updateCell row f typed).toOption.getD m
  | .refresh t => m.refresh t

def run (m : Model) (steps : List Step) : Model := steps.foldl after m

def start : Option Text → Model
  | none => empty
  | some t => ofText t

structure Numbered (m : Model) : Prop where
  index_eq : ∀ (i : Nat) r, m.rows[i]? = some r → r.index = i
  selected_lt : ∀ i, m.selected = some i → i < m.rows.length

/-- Each edit of the table does its own work and nothing else. -/
structure EditsAlone (m : Model) : Prop where
  adds : ∃ r, m.addRow.2.rows = m.rows ++ [r]
  deletes : ∀ i, m.selected = some i → m.deleteSelected.1 = true ∧
    m.deleteSelected.2.rows.length + 1 = m.rows.length ∧
    ∀ j : Nat, m.deleteSelected.2.rows[j]? =
      (m.rows[if j < i then j else j + 1]?).map fun r => { r with index := j }
  updates : ∀ row f typed, row < m.rows.length → ∃ m', m.updateCell row f typed = .ok m' ∧
    m'.selected = m.selected ∧ m'.rows.length = m.rows.length ∧ (∀ j : Nat, j ≠ row → m'.rows[j]? = m.rows[j]?) ∧
    ∃ r r', m.rows[row]? = some r ∧ m'.rows[row]? = some r' ∧ r.SetsAlone r' f (cellValue typed)
  selects : ∀ row, row < m.rows.length → (m.select row).2 = { m with selected := some row }
  misses : ∀ row, m.rows.length ≤ row → m.select row = (none, m)
  refuses : ∀ row f typed, m.rows.length ≤ row →
    m.updateCell row f typed = .error ⟨row, m.rows.length⟩ ∧ m.after (.updateCell row f typed) = m
  idles : m.selected = none → m.deleteSelected = (false, m)

variable {m m' : Model} {t : Text} {i row : Nat} {f : Field} {typed : Text}

lemma mem_addRow (hm : ∀ r ∈ m.rows, r.hasAxis) : ∀ r ∈ m.addRow.2.rows, r.hasAxis := by
  intro r hr
  rw [addRow] at hr
  rcases List.mem_append.mp hr with hr | hr
  · exact hm r hr
  · rw [List.mem_singleton.mp hr]
    cases m.rows.getLast? <;> rfl

lemma length_addRow (m : Model) : m.addRow.2.rows.length = m.rows.length + 1 := List.length_append

lemma mem_deleteSelected (hm : ∀ r ∈ m.rows, r.hasAxis) : ∀ r ∈ m.deleteSelected.2.rows, r.hasAxis := by
  intro r hr
  rw [deleteSelected] at hr
  split at hr
  · exact hm r hr
  · split at hr
    · obtain ⟨i, hi, rfl⟩ := List.mem_mapIdx.mp hr
      exact hm (m.rows.eraseIdx _)[i] (List.mem_of_mem_eraseIdx (List.getElem_mem hi))
    · exact hm r hr

lemma length_deleteSelected (h : m.deleteSelected.1) :
    m.deleteSelected.2.rows.length + 1 = m.rows.length := by
  rw [deleteSelected] at h ⊢
  split at h
  · cases h
  · rename_i i _
    split at h
    · rename_i hi
      simp only [if_pos hi, clamp, renumber, List.length_mapIdx, List.length_eraseIdx_of_lt hi]
      omega
    · cases h

lemma selected_clamp_lt (h : m.clamp.selected = some i) : i < m.rows.length := by
  rw [clamp] at h
  dsimp only at h
  split at h
  · cases h
  · rename_i hne
    obtain ⟨j, -, rfl⟩ := Option.map_eq_some_iff.mp h
    have hpos : 0 < m.rows.length := List.length_pos_iff.mpr (mt List.isEmpty_iff.mpr hne)
    omega

lemma deleteSelected_eq (h : m.selected = some i) (hi : i < m.rows.length) :
    m.deleteSelected = (true, clamp { m with rows := renumber (m.rows.eraseIdx i) }) := by
  rw [deleteSelected, h]
  exact if_pos hi

lemma select_of_lt (h : row < m.rows.length) : m.select row = (m.rows[row].line, { m with selected := some row }) := by
  rw [select, List.getElem?_eq_getElem h]

lemma select_of_le (h : m.rows.length ≤ row) : m.select row = (none, m) := by
  rw [select, List.getElem?_eq_none h]

lemma updateCell_of_lt (h : row < m.rows.length) :
    m.updateCell row f typed = .ok { m with rows := m.rows.modify row (·.set f (cellValue typed)) } := if_pos h

lemma updateCell_of_le (h : m.rows.length ≤ row) : m.updateCell row f typed = .error ⟨row, m.rows.length⟩ :=
  if_neg (Nat.not_lt_of_le h)

lemma getElem?_renumber (rows : List Row) (j : Nat) :
    (renumber rows)[j]? = rows[j]?.map fun r => { r with index := j } := List.getElem?_mapIdx

lemma numbered_of_toRows (h : m.rows = toRows t) (hs : ∀ i, m.selected = some i → i < m.rows.length) : m.Numbered :=
  ⟨fun _ _ hr => index_of_getElem?_toRows (h ▸ hr), hs⟩

lemma numbered_start (t : Option Text) : (start t).Numbered := by
  cases t with
  | none => exact ⟨nofun, nofun⟩
  | some t => exact numbered_of_toRows rfl nofun

lemma addRow_eq (m : Model) :
    ∃ r : Row, r.index = m.rows.length ∧ m.addRow = (m.rows.length, ⟨m.rows ++ [r], some m.rows.length⟩) := by
  rw [addRow]
  cases m.rows.getLast? with
  | none => exact ⟨_, rfl, rfl⟩
  | some r => exact ⟨_, rfl, rfl⟩

lemma Numbered.addRow (h : m.Numbered) : m.addRow.2.Numbered := by
  obtain ⟨r, hr, he⟩ := addRow_eq m
  rw [he]
  refine ⟨fun i x hx => ?_, fun i hi => ?_⟩
  · dsimp only at hx
    rcases Nat.lt_or_ge i m.rows.length with hlt | hge
    · rw [List.getElem?_append_left hlt] at hx
      exact h.index_eq i x hx
    · rw [List.getElem?_append_right hge, List.getElem?_singleton] at hx
      split at hx
      · cases hx
        omega
      · cases hx
  · cases hi
    rw [List.length_append, List.length_singleton]
    exact Nat.lt_succ_self _

lemma Numbered.deleteSelected (h : m.Numbered) : m.deleteSelected.2.Numbered := by
  cases hs : m.selected with
  | none =>
    rw [Model.deleteSelected, hs]
    exact h
  | some i =>
    rw [deleteSelected_eq hs (h.selected_lt i hs)]
    refine ⟨fun j r hr => ?_, fun j => selected_clamp_lt⟩
    obtain ⟨r, -, rfl⟩ := Option.map_eq_some_iff.mp ((getElem?_renumber _ j).symm.trans hr)
    rfl

lemma Numbered.updateCell (h : m.Numbered) (hm : m.updateCell row f typed = .ok m') : m'.Numbered := by
  rw [Model.updateCell] at hm
  split at hm
  · cases hm
    refine ⟨fun i r hr => ?_, fun i hi => ?_⟩
    · rw [List.getElem?_modify, Option.map_eq_map, Option.map_eq_some_iff] at hr
      obtain ⟨old, hold, rfl⟩ := hr
      split
      · exact (old.setsAlone f _).index.trans (h.index_eq i old hold)
      · exact h.index_eq i old hold
    · rw [List.length_modify]
      exact h.selected_lt i hi
  · cases hm

lemma Numbered.select (h : m.Numbered) (row : Nat) : (m.select row).2.Numbered := by
  rcases Nat.lt_or_ge row m.rows.length with hlt | hge
  · rw [select_of_lt hlt]
    refine ⟨h.index_eq, fun i hi => ?_⟩
    cases hi
    exact hlt
  · rw [select_of_le hge]
    exact h

lemma Numbered.after (h : m.Numbered) (x : Step) : (m.after x).Numbered := by
  cases x with
  | select row => exact h.select row
  | addRow => exact h.addRow
  | deleteSelected => exact h.deleteSelected
  | updateCell row f typed =>
    rw [Model.after]
    cases hm : m.updateCell row f typed with
    | ok m' => exact h.updateCell hm
    | error e => exact h
  | refresh t => exact numbered_of_toRows rfl fun i => selected_clamp_lt

lemma Numbered.run (h : m.Numbered) (steps : List Step) : (m.run steps).Numbered := by
  induction steps generalizing m with
  | nil => exact h
  | cons x steps ih => exact ih (h.after x)

lemma getElem?_deleteSelected (h : m.selected = some i) (hi : i < m.rows.length) (j : Nat) :
    m.deleteSelected.2.rows[j]? = (m.rows[if j < i then j else j + 1]?).map fun r => { r with index := j } := by
  rw [deleteSelected_eq h hi]
  refine (getElem?_renumber _ j).trans ?_
  rw [List.getElem?_eraseIdx]
  split <;> rfl

lemma updates_alone (hrow : row < m.rows.length) (f : Field) (typed : Text) :
    ∃ m', m.updateCell row f typed = .ok m' ∧ m'.selected = m.selected ∧ m'.rows.length = m.rows.length ∧
      (∀ j : Nat, j ≠ row → m'.rows[j]? = m.rows[j]?) ∧
      ∃ r r', m.rows[row]? = some r ∧ m'.rows[row]? = some r' ∧ r.SetsAlone r' f (cellValue typed) := by
  have hold : m.rows[row]? = some m.rows[row] := List.getElem?_eq_getElem hrow
  refine ⟨_, updateCell_of_lt hrow, rfl, List.length_modify .., fun j hj => List.getElem?_modify_ne _ _ hj.symm,
    _, _, hold, ?_, m.rows[row].setsAlone f _⟩
  rw [List.getElem?_modify_eq, hold]
  rfl

lemma Numbered.editsAlone (h : m.Numbered) : m.EditsAlone where
  adds := by
    obtain ⟨r, -, he⟩ := addRow_eq m
    rw [he]
    exact ⟨r, rfl⟩
  deletes i hi := by
    have hd : m.deleteSelected.1 = true := by rw [deleteSelected_eq hi (h.selected_lt i hi)]
    exact ⟨hd, length_deleteSelected hd, getElem?_deleteSelected hi (h.selected_lt i hi)⟩
  updates row f typed hrow := updates_alone hrow f typed
  selects row hrow := by rw [select_of_lt hrow]
  misses row hrow := select_of_le hrow
  refuses row f typed hrow := by
    rw [Model.after, updateCell_of_le hrow]
    exact ⟨rfl, rfl⟩
  idles hs := by rw [Model.deleteSelected, hs]

/-- Whatever is done with a table, its rows are numbered by their places and the selected row is one of them, and
each further edit does its own work and nothing else. -/
theorem numbered_after_edits (t : Option Text) (steps : List Step) :
    let m := (start t).run steps
    (∀ (i : Nat) r, m.rows[i]? = some r → r.index = i) ∧ (∀ i, m.selected = some i → i < m.rows.length) ∧
      m.EditsAlone := by
  intro m
  have h : m.Numbered := (numbered_start t).run steps
  exact ⟨h.index_eq, h.selected_lt, h.editsAlone⟩

example :
    let m := (start (some "G1 X1\nG1 X2\nG1 X3".toList)).run [.select 2, .refresh "G1 Y1".toList]
    m.selected = some 0 ∧ m.after .deleteSelected = empty := by
  decide +kernel

end Model

end Toolpath.Table
