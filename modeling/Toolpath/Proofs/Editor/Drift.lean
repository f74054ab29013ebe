import Toolpath.Proofs.Editor.Coherence
import Toolpath.Proofs.Table.Edits

/-!
The table against the document. The rows are taken from the text whenever it changes. A cell that gets
another value without another text, because both are printed alike or the regenerated line says what it
said before, keeps a value that the document does not have; no other request lets the two differ.
-/

namespace Toolpath.Table

lemma Model.toText_ne {m : Model} {t : Text} (hne : m.rows ≠ []) (hm : ∀ r ∈ m.rows, r.hasAxis)
    (hl : m.rows.length ≠ (toRows t).length) : m.toText t ≠ t := by
  intro ht
  have hh := length_toRows_ofRows hne t
  rw [show Table.ofRows m.rows t = t from ht, List.countP_eq_length.mpr hm] at hh
  exact hl hh.symm

end Toolpath.Table

namespace Toolpath.Editor

open Table

namespace Session

def InSync (s : Session) : Prop := s.table.rows = toRows s.text

def Syncs (s s' : Session) : Prop := s'.InSync ∨ s'.table.rows = s.table.rows ∧ s'.text = s.text

/-- A cell gets another value, and the program written from the rows is the text that stands there. -/
def Silent (s : Session) : Request → Prop
  | .updateCell row f typed => ∃ old, s.table.rows[row]? = some old ∧ old.get f ≠ Model.cellValue typed ∧
      ofRows (s.table.rows.modify row (·.set f (Model.cellValue typed))) s.text = s.text
  | _ => False

variable {c : SessionConfig} {s s' : Session}

lemma inSync_adopt (s : Session) (h : History) (echo : Option Text) (source : Source) :
    (s.adopt h echo source).InSync := rfl

lemma inSync_write_iff (s : Session) (t : Text) : (s.write t).InSync ↔ (t = s.history.current → s.InSync) := by
  rw [Session.write]
  split
  · rename_i ht
    exact ⟨fun h _ => h, fun h => h ht⟩
  · rename_i ht
    exact iff_of_true (inSync_adopt ..) fun he => absurd he ht

lemma inSync_reselect_iff (s : Session) (row : Option Nat) :
    ({ s with table := s.table.reselect row } : Session).InSync ↔ s.InSync := by
  rw [InSync, Model.reselect_rows]
  rfl

lemma InSync.of_syncs (h : s.InSync) (hs : s.Syncs s') : s'.InSync := by
  rcases hs with hs | ⟨hrows, htext⟩
  · exact hs
  · rw [InSync, hrows, htext]
    exact h

lemma syncs_adopt (s : Session) (h : History) (echo : Option Text) (source : Source) :
    s.Syncs (s.adopt h echo source) := .inl (inSync_adopt ..)

lemma Syncs.refreshSearch (h : s.Syncs s') : s.Syncs s'.refreshSearch := by
  rw [refreshSearch_eq]
  exact h

lemma syncs_write (s : Session) (t : Text) : s.Syncs (s.write t) := by
  rw [write]
  split
  · exact .inr ⟨rfl, rfl⟩
  · exact syncs_adopt ..

lemma syncs_shown (s : Session) (x : Option History) : s.Syncs (s.shown x) := by
  cases x with
  | none => exact .inr ⟨rfl, rfl⟩
  | some x => exact (syncs_adopt s x s.pendingEcho .history).refreshSearch

lemma syncs_replaced (s : Session) (x : Option Text) : s.Syncs (s.replaced x) := by
  cases x with
  | none => exact .inr ⟨rfl, rfl⟩
  | some t => exact (syncs_write s t).refreshSearch

lemma syncs_looks {r : Request} (hr : r.looks) : s.Syncs (s.after r) := by
  obtain ⟨m, b, hm, he⟩ := after_looks (s := s) hr
  exact .inr (he ▸ ⟨hm, rfl⟩)

lemma Coherent.syncs_after (h : Coherent c s) {r : Request} (hr : ¬ r.redraws) : s.Syncs (s.after r) := by
  cases r with
  | load t =>
    rw [after_load h.idle]
    exact .inl (inSync_adopt ..)
  | edit t =>
    rw [after_edit h.idle]
    split
    · exact .inr ⟨rfl, rfl⟩
    · exact (syncs_adopt ..).refreshSearch
  | undo | redo =>
    rw [after_recalls h.idle rfl]
    exact syncs_shown ..
  | format =>
    rw [after_format h.idle]
    exact syncs_write ..
  | replaceCurrent _ | replaceAll _ =>
    rw [after_replaces h.idle rfl]
    exact syncs_replaced ..
  | check | selectRow _ | find _ _ | findNext | findPrevious => exact syncs_looks rfl
  | pointerMove _ | pointerLeave | click _ => exact syncs_looks rfl
  | updateCell _ _ _ | addRow | deleteRow | applyTable => exact absurd rfl hr

lemma Coherent.inSync_redrawn_iff (h : Coherent c s) (m : Model) :
    (s.redrawn (some m)).InSync ↔ (m.rows ≠ [] → m.toText s.text = s.text → m.rows = toRows s.text) := by
  have hm : Coherent c { s with table := m } := h.congr ..
  rw [redrawn_some h.idle]
  split
  · rename_i he
    exact iff_of_true rfl fun hne => absurd (List.isEmpty_iff.mp he) hne
  · rename_i he
    have hne : m.rows ≠ [] := fun hn => he (List.isEmpty_iff.mpr hn)
    rw [inSync_reselect_iff, inSync_write_iff, ← hm.text]
    exact ⟨fun hs _ => hs, fun hs => hs hne⟩

-- The program written from more or fewer rows is read back as so many, so it is another text.
lemma Coherent.inSync_resized (h : Coherent c s) {m : Model} (hm : ∀ r ∈ m.rows, r.hasAxis)
    (hl : m.rows.length ≠ (toRows s.text).length) : (s.redrawn (some m)).InSync := by
  rw [h.inSync_redrawn_iff]
  intro hne ht
  exact absurd ht (Model.toText_ne hne hm hl)

lemma Coherent.inSync_updateCell_iff (h : Coherent c s) (hs : s.InSync) (row : Nat) (f : Field) (typed : Text) :
    (s.after (.updateCell row f typed)).InSync ↔ ¬ s.Silent (.updateCell row f typed) := by
  rw [after_redraws h.idle rfl, Request.redraw?, Model.updateCell]
  split
  · rename_i hr
    have hold : s.table.rows[row]? = some s.table.rows[row] := List.getElem?_eq_getElem hr
    rw [Except.toOption, h.inSync_redrawn_iff]
    constructor
    · rintro hrows ⟨old, ho, hv, ht⟩
      have hne : s.table.rows.modify row (·.set f (Model.cellValue typed)) ≠ [] := by
        rw [← List.length_pos_iff, List.length_modify]
        exact Nat.zero_lt_of_lt hr
      exact hv ((modify_set_eq_iff ho f _).mp ((hrows hne ht).trans hs.symm))
    · intro hsilent _ ht
      by_contra hrows
      refine hsilent ⟨_, hold, fun hv => hrows ?_, ht⟩
      exact ((modify_set_eq_iff hold f _).mpr hv).trans hs
  · rename_i hr
    refine iff_of_true hs ?_
    rintro ⟨old, hold, -⟩
    exact hr (List.getElem?_eq_some_iff.mp hold).1

lemma Coherent.inSync_after_iff (h : Coherent c s) (hs : s.InSync) (r : Request) :
    (s.after r).InSync ↔ ¬ s.Silent r := by
  have haxis : ∀ r ∈ s.table.rows, r.hasAxis := fun r hr => hasAxis_of_mem_toRows (hs ▸ hr)
  have hlen : s.table.rows.length = (toRows s.text).length := congrArg List.length hs
  cases r with
  | updateCell row f typed => exact h.inSync_updateCell_iff hs row f typed
  | addRow =>
    rw [after_redraws h.idle rfl]
    refine iff_of_true (h.inSync_resized (Model.mem_addRow haxis) ?_) id
    rw [Model.length_addRow, hlen]
    exact Nat.succ_ne_self _
  | deleteRow =>
    rw [after_redraws h.idle rfl, Request.redraw?]
    refine iff_of_true ?_ id
    split
    · rename_i hd
      have hl := Model.length_deleteSelected hd
      exact h.inSync_resized (Model.mem_deleteSelected haxis) (by omega)
    · exact hs
  | applyTable =>
    rw [after_redraws h.idle rfl, Request.redraw?, h.inSync_redrawn_iff]
    exact iff_of_true (fun _ _ => hs) id
  | _ => exact iff_of_true (hs.of_syncs (h.syncs_after Bool.false_ne_true)) id

lemma inSync_new (c : SessionConfig) (t : Text) : (new c t).InSync := by
  rw [new_eq]
  exact inSync_adopt ..

/-- The table agrees with the document all along a run if no cell edit is silent, and not otherwise. -/
theorem table_in_sync_iff (c : SessionConfig) (t : Text) (rs : List Request) :
    (∀ rs', rs' <+: rs → ((new c t).run rs').InSync) ↔
      ∀ rs' r, rs' ++ [r] <+: rs → ¬ ((new c t).run rs').Silent r := by
  refine forall_prefix_iff (inSync_new c t) (fun rs r hs => ?_) rs
  rw [run_concat]
  exact (Coherent.run c t rs).inSync_after_iff hs r

-- A thousandth is typed that the printed line does not show.
theorem table_drifts_after_rounding :
    let s := (new .default "G90\nG1 X1.00 Y0.00 Z0.00".toList).run [.updateCell 0 .x "1.001".toList]
    s.table.rows ≠ toRows s.text := by
  decide +kernel

end Session

end Toolpath.Editor
