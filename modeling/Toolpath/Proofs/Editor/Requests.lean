import Mathlib.Data.List.Induction
import Toolpath.Editor.Session

/-!
What each request does to an idle session, as an equation. Some requests only look; others redraw the
document from the table, replace matches in it, or recall a text of the history. Every change of the
document is an `adopt` of a history, and what the session writes by itself goes through `write`.
-/

namespace Toolpath.Table

def Model.reselect (m : Model) (row : Option Nat) : Model :=
  match row with
  | some row => (m.select row).2
  | none => m

lemma Model.select_rows (m : Model) (row : Nat) : (m.select row).2.rows = m.rows := by
  rw [select]
  split <;> rfl

@[simp] lemma Model.reselect_rows (m : Model) (row : Option Nat) : (m.reselect row).rows = m.rows := by
  cases row with
  | none => rfl
  | some row => exact m.select_rows row

end Toolpath.Table

namespace Toolpath.Editor

open Program Scene

@[simp] lemma History.record_self (h : History) : h.record h.current = (false, h) := by
  simp [History.record]

lemma History.record_of_ne {h : History} {t : Text} (ht : t ≠ h.current) :
    h.record t = (true, { h with current := t, past := h.push, future := [] }) := by
  simp [History.record, ht]

@[simp] lemma History.record_current (h : History) (t : Text) : (h.record t).2.current = t := by
  by_cases ht : t = h.current
  · simp [ht]
  · rw [History.record_of_ne ht]

def Bus.announce (b : Bus) (a : Analysis) (source : Source) : Bus :=
  let b := (b.publish (.textChanged source a.trace.nodes.length)).2
  match a.projection.aborted with
  | some x => (b.publish (.relativeModeAborted x.line)).2
  | none => b

def Search.renew (q : Search) (t : Text) : Search := if q.isActive then (q.refresh t).2 else q

def Request.redraw? (m : Table.Model) : Request → Option Table.Model
  | .updateCell row f typed => (m.updateCell row f typed).toOption
  | .addRow => some m.addRow.2
  | .deleteRow => if m.deleteSelected.1 then some m.deleteSelected.2 else none
  | .applyTable => some m
  | _ => none

def Request.redraws : Request → Bool
  | .updateCell _ _ _ | .addRow | .deleteRow | .applyTable => true
  | _ => false

def Request.recall? (h : History) : Request → Option History
  | .undo => h.undo?
  | .redo => h.redo?
  | _ => none

def Request.recalls : Request → Bool
  | .undo | .redo => true
  | _ => false

def Request.replacement? (s : Session) : Request → Option Text
  | .replaceCurrent w => s.search.currentMatch.map fun m => (s.buffer.replace ⟨m.start, m.stop⟩ w).text
  | .replaceAll w => (s.search.replaceEach s.text w).toOption.join
  | _ => none

def Request.replaces : Request → Bool
  | .replaceCurrent _ | .replaceAll _ => true
  | _ => false

def Request.looks : Request → Bool
  | .check | .selectRow _ | .find _ _ | .findNext | .findPrevious => true
  | .pointerMove _ | .pointerLeave | .click _ => true
  | _ => false

def Request.point (r : Request) (p : Pointer) (clusters : List Cluster) : Pointer :=
  match r with
  | .pointerMove spot => (p.move spot clusters).2
  | .pointerLeave => p.collapse.2
  | .click spot => (p.click spot clusters).2
  | _ => p

def Request.seek (r : Request) (q : Search) (t : Text) : Search :=
  match r with
  | .find query o => (Search.run t query o).2
  | .findNext => q.next.2
  | .findPrevious => q.previous.2
  | _ => q

namespace Session

def after (s : Session) (r : Request) : Session := (s.perform r).2

def adopt (s : Session) (h : History) (echo : Option Text) (source : Source) : Session :=
  let a := Analysis.of h.current s.config.transform
  { s with
    buffer := ⟨h.current⟩
    history := h
    analysis := a
    table := s.table.refresh h.current
    pointer := s.pointer.retain a.projection.clusters
    bus := s.bus.announce a source
    pendingEcho := echo }

def write (s : Session) (t : Text) : Session :=
  if t = s.history.current then s else s.adopt (s.history.record t).2 (some t) .core

def blank (c : SessionConfig) : Session :=
  ⟨c, .idle, .empty, .new [] c.historyDepth, .of [] c.transform, .empty, .new c.radii, .none, .new none, none⟩

lemma reanalyze_eq (s : Session) (source : Source) :
    s.reanalyze source =
      { s with
        analysis := .of s.text s.config.transform
        table := s.table.refresh s.text
        pointer := s.pointer.retain (Analysis.of s.text s.config.transform).projection.clusters
        bus := s.bus.announce (.of s.text s.config.transform) source } := by
  simp only [reanalyze, Bus.announce, publish, text]
  cases (Analysis.of s.buffer.text s.config.transform).projection.aborted <;> rfl

lemma refreshSearch_eq (s : Session) : s.refreshSearch = { s with search := s.search.renew s.text } := by
  simp only [refreshSearch, Search.renew]
  split <;> rfl

lemma new_eq (c : SessionConfig) (t : Text) :
    Session.new c t = (blank c).adopt (.new t c.historyDepth) none .core := by
  rw [Session.new, reanalyze_eq]
  rfl

lemma whenIdle_of_idle {α : Type} {s : Session} (h : s.phase = .idle)
    (act : Except EditorError α × Session) : s.whenIdle act = act := if_pos h

variable {s : Session}

lemma applyExternal_eq (h : s.phase = .idle) (t : Text) :
    s.applyExternal t = (.ok (decide (t ≠ s.history.current)), s.write t) := by
  rw [applyExternal, whenIdle_of_idle h]
  by_cases ht : t = s.history.current
  · subst ht
    simp [write, ← h]
  · simp [write, ht, History.record_of_ne ht, reanalyze_eq, setText, text, adopt, ← h]

lemma applyTable_eq (h : s.phase = .idle) :
    s.applyTable.2 =
      if s.table.rows.isEmpty then { s with table := s.table.refresh s.text }
      else
        let w := s.write (s.table.toText s.text)
        { w with table := w.table.reselect s.table.selected } := by
  simp only [applyTable, applyExternal_eq h]
  split
  · rfl
  · cases s.table.selected <;> rfl

lemma after_load (h : s.phase = .idle) (t : Text) :
    s.after (.load t) =
      { s with table := .empty, pointer := s.pointer.collapse.2, search := .none }.adopt
        (s.history.reset t) none .core := by
  simp only [after, perform, Prod.map, load, whenIdle_of_idle h, reanalyze_eq]
  rfl

lemma edit_eq (h : s.phase = .idle) (t : Text) :
    s.edit t =
      if s.pendingEcho = some t ∨ t = s.history.current then (.ok false, { s with pendingEcho := none })
      else (.ok true, (s.adopt (s.history.record t).2 none .user).refreshSearch) := by
  rw [edit, whenIdle_of_idle h]
  by_cases he : s.pendingEcho = some t
  · simp [he]
  by_cases ht : t = s.history.current
  · simp [ht]
  · simp [he, ht, History.record_of_ne ht, reanalyze_eq, setText, text, adopt]

lemma after_edit (h : s.phase = .idle) (t : Text) :
    s.after (.edit t) =
      if s.pendingEcho = some t ∨ t = s.history.current then { s with pendingEcho := none }
      else (s.adopt (s.history.record t).2 none .user).refreshSearch := by
  simp only [after, perform, Prod.map, edit_eq h]
  split <;> rfl

def shown (s : Session) : Option History → Session
  | some h => (s.adopt h s.pendingEcho .history).refreshSearch
  | none => s

lemma replay_eq (h : History) : (s.replay h).2 = s.shown (some h) := by
  simp only [replay, reanalyze_eq]
  rfl

lemma after_recalls (h : s.phase = .idle) {r : Request} (hr : r.recalls) :
    s.after r = s.shown (r.recall? s.history) := by
  cases r with
  | undo =>
    simp only [after, perform, Prod.map, undo, whenIdle_of_idle h, Request.recall?]
    cases s.history.undo? with
    | none => rfl
    | some past => exact replay_eq past
  | redo =>
    simp only [after, perform, Prod.map, redo, whenIdle_of_idle h, Request.recall?]
    cases s.history.redo? with
    | none => rfl
    | some future => exact replay_eq future
  | _ => cases hr

lemma after_format (h : s.phase = .idle) : s.after .format = s.write (layout s.text) := by
  simp only [after, perform, Prod.map, format, applyExternal_eq h]
  rfl

def redrawn (s : Session) : Option Table.Model → Session
  | some m => ({ s with table := m }).applyTable.2
  | none => s

lemma redrawn_some (h : s.phase = .idle) (m : Table.Model) :
    s.redrawn (some m) =
      if m.rows.isEmpty then { s with table := m.refresh s.text }
      else
        let w := ({ s with table := m } : Session).write (m.toText s.text)
        { w with table := w.table.reselect m.selected } :=
  applyTable_eq (s := { s with table := m }) h

lemma after_redraws (h : s.phase = .idle) {r : Request} (hr : r.redraws) :
    s.after r = s.redrawn (r.redraw? s.table) := by
  cases r with
  | updateCell row f typed =>
    simp only [after, perform, Prod.map, updateCell, whenIdle_of_idle h, Request.redraw?]
    cases s.table.updateCell row f typed <;> rfl
  | addRow => simp only [after, perform, Prod.map, addRow, whenIdle_of_idle h]; rfl
  | deleteRow =>
    simp only [after, perform, Prod.map, deleteSelectedRow, whenIdle_of_idle h, Request.redraw?]
    rcases s.table.deleteSelected with ⟨_ | _, m⟩ <;> rfl
  | applyTable => rfl
  | _ => cases hr

lemma applyAndRefresh_eq (h : s.phase = .idle) (t : Text) :
    (s.applyAndRefresh t).2 = (s.write t).refreshSearch := by
  simp only [applyAndRefresh, applyExternal_eq h]

def replaced (s : Session) : Option Text → Session
  | some t => (s.write t).refreshSearch
  | none => s

lemma after_replaces (h : s.phase = .idle) {r : Request} (hr : r.replaces) :
    s.after r = s.replaced (r.replacement? s) := by
  cases r with
  | replaceCurrent w =>
    simp only [after, perform, Prod.map, replaceCurrent, Request.replacement?]
    cases s.search.currentMatch with
    | none => rfl
    | some m => exact applyAndRefresh_eq h _
  | replaceAll w =>
    simp only [after, perform, Prod.map, replaceAll, Request.replacement?]
    rcases s.search.replaceEach s.text w with e | _ | t
    · rfl
    · rfl
    · exact applyAndRefresh_eq h t
  | _ => cases hr

lemma selectLine_eq (s : Session) (node : Option Nat) (line : Nat) :
    ∃ b, (s.selectLine node line).2 = { s with bus := b } := by
  rw [selectLine]
  split
  · exact ⟨_, rfl⟩
  · exact ⟨s.bus, rfl⟩

lemma selectRow_eq (s : Session) (row : Nat) :
    ∃ b, (s.selectRow row).2 = { s with table := (s.table.select row).2, bus := b } := by
  rw [selectRow]
  rcases s.table.select row with ⟨_ | line, m⟩
  · exact ⟨s.bus, rfl⟩
  · exact selectLine_eq _ _ line

lemma afterCollapse_eq (s : Session) (x : Bool × Pointer) :
    ∃ b, (s.afterCollapse x).2 = { s with pointer := x.2, bus := b } := by
  rw [afterCollapse]
  dsimp only
  split
  · exact ⟨_, rfl⟩
  · exact ⟨s.bus, rfl⟩

lemma click_eq (s : Session) (spot : Point) :
    ∃ b, (s.click spot).2 = { s with pointer := (s.pointer.click spot s.clusters).2, bus := b } := by
  rw [click]
  rcases s.pointer.click spot s.clusters with ⟨n | _ | _ | _, p⟩
  · dsimp only
    split
    · exact selectLine_eq _ _ _
    · exact ⟨s.bus, rfl⟩
  · exact ⟨_, rfl⟩
  · exact ⟨_, rfl⟩
  · exact ⟨s.bus, rfl⟩

lemma after_looks {r : Request} (hr : r.looks) :
    ∃ m b, m.rows = s.table.rows ∧ s.after r =
      { s with
        table := m
        pointer := r.point s.pointer s.clusters
        search := r.seek s.search s.text
        bus := b } := by
  cases r with
  | check => exact ⟨s.table, _, rfl, rfl⟩
  | selectRow row =>
    obtain ⟨b, hb⟩ := s.selectRow_eq row
    exact ⟨_, b, s.table.select_rows row, hb⟩
  | find query o => exact ⟨s.table, s.bus, rfl, rfl⟩
  | findNext => exact ⟨s.table, s.bus, rfl, rfl⟩
  | findPrevious => exact ⟨s.table, s.bus, rfl, rfl⟩
  | pointerMove spot =>
    obtain ⟨b, hb⟩ := s.afterCollapse_eq (s.pointer.move spot s.clusters)
    exact ⟨s.table, b, rfl, hb⟩
  | pointerLeave =>
    obtain ⟨b, hb⟩ := s.afterCollapse_eq s.pointer.collapse
    exact ⟨s.table, b, rfl, hb⟩
  | click spot =>
    obtain ⟨b, hb⟩ := s.click_eq spot
    exact ⟨s.table, b, rfl, hb⟩
  | _ => cases hr

def run (s : Session) (rs : List Request) : Session := rs.foldl after s

@[simp] lemma run_nil : s.run [] = s := rfl

@[simp] lemma run_concat (rs : List Request) (r : Request) : s.run (rs ++ [r]) = (s.run rs).after r := by
  simp [run]

lemma run_induction {P : Session → Prop} (h₀ : P s) (h : ∀ s r, P s → P (s.after r)) (rs : List Request) :
    P (s.run rs) := by
  induction rs using List.reverseRecOn with
  | nil => exact h₀
  | append_singleton rs r ih =>
    rw [run_concat]
    exact h _ r ih

lemma forall_prefix_iff {P : Session → Prop} {B : Session → Request → Prop} (h₀ : P s)
    (h : ∀ rs r, P (s.run rs) → (P (s.run (rs ++ [r])) ↔ ¬ B (s.run rs) r)) (rs : List Request) :
    (∀ rs', rs' <+: rs → P (s.run rs')) ↔ ∀ rs' r, rs' ++ [r] <+: rs → ¬ B (s.run rs') r := by
  constructor
  · intro hp rs' r hr
    exact (h rs' r (hp rs' ((List.prefix_append rs' [r]).trans hr))).mp (hp _ hr)
  · intro hb rs'
    induction rs' using List.reverseRecOn with
    | nil => exact fun _ => h₀
    | append_singleton rs' r ih =>
      intro hr
      have hp := ih ((List.prefix_append rs' [r]).trans hr)
      exact (h rs' r hp).mpr (hb rs' r hr)

end Session

end Toolpath.Editor
