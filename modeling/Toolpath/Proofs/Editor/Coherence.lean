import Toolpath.Proofs.Editor.Requests
import Toolpath.Proofs.Scene.OpenRing

/-!
A session is coherent: between requests it is idle, its document is the current text of its history, and
the analysis and the open ring are those of that text.
-/

namespace Toolpath.Editor

open Scene

/-- All that a session of configuration `c` keeps about its document agrees with its text. -/
structure Session.Coherent (c : SessionConfig) (s : Session) : Prop where
  config : s.config = c
  radii : s.pointer.radii = c.radii
  idle : s.phase = .idle
  text : s.text = s.history.current
  analysis : s.analysis = .of s.text c.transform
  ring : s.pointer.Fits s.clusters

namespace Session.Coherent

variable {c : SessionConfig} {s : Session}

lemma of_adopt (hc : s.config = c) (hr : s.pointer.radii = c.radii) (hi : s.phase = .idle) (h : History)
    (echo : Option Text) (source : Source) : Coherent c (s.adopt h echo source) where
  config := hc
  radii := Pointer.radii_retain.trans hr
  idle := hi
  text := rfl
  analysis := by rw [← hc]; rfl
  ring := Pointer.fits_retain _ _

lemma adopt (h : Coherent c s) (x : History) (echo : Option Text) (source : Source) :
    Coherent c (s.adopt x echo source) := of_adopt h.config h.radii h.idle x echo source

lemma congr (h : Coherent c s) (m : Table.Model) (q : Search) (b : Bus) (echo : Option Text) :
    Coherent c { s with table := m, search := q, bus := b, pendingEcho := echo } :=
  ⟨h.config, h.radii, h.idle, h.text, h.analysis, h.ring⟩

lemma refreshSearch (h : Coherent c s) : Coherent c s.refreshSearch := by
  rw [refreshSearch_eq]
  exact h.congr ..

lemma write (h : Coherent c s) (t : Text) : Coherent c (s.write t) := by
  rw [Session.write]
  split
  · exact h
  · exact h.adopt ..

lemma text_write (h : Coherent c s) (t : Text) : (s.write t).text = t := by
  rw [Session.write]
  split
  · rename_i ht
    exact h.text.trans ht.symm
  · exact History.record_current ..

lemma shown (h : Coherent c s) (x : Option History) : Coherent c (s.shown x) := by
  cases x with
  | none => exact h
  | some x => exact (h.adopt ..).refreshSearch

lemma redrawn (h : Coherent c s) (x : Option Table.Model) : Coherent c (s.redrawn x) := by
  cases x with
  | none => exact h
  | some m =>
    have hm : Coherent c { s with table := m } := h.congr ..
    rw [redrawn_some h.idle]
    split
    · exact h.congr ..
    · exact (hm.write _).congr ..

lemma replaced (h : Coherent c s) (x : Option Text) : Coherent c (s.replaced x) := by
  cases x with
  | none => exact h
  | some t => exact (h.write t).refreshSearch

lemma point (h : Coherent c s) (r : Request) :
    Coherent c { s with pointer := r.point s.pointer s.clusters } := by
  have hp : (r.point s.pointer s.clusters).radii = s.pointer.radii ∧
      (r.point s.pointer s.clusters).Fits s.clusters := by
    cases r with
    | pointerMove spot => exact ⟨Pointer.radii_move spot, h.ring.move spot⟩
    | pointerLeave => exact ⟨rfl, Pointer.fits_of_closed rfl⟩
    | click spot => exact ⟨Pointer.radii_click spot, h.ring.click spot⟩
    | _ => exact ⟨rfl, h.ring⟩
  exact ⟨h.config, hp.1.trans h.radii, h.idle, h.text, h.analysis, hp.2⟩

lemma looks (h : Coherent c s) {r : Request} (hr : r.looks) : Coherent c (s.after r) := by
  obtain ⟨m, b, -, he⟩ := after_looks (s := s) hr
  rw [he]
  exact (h.point r).congr ..

lemma after (h : Coherent c s) (r : Request) : Coherent c (s.after r) := by
  cases r with
  | load t =>
    rw [after_load h.idle]
    apply of_adopt
    · exact h.config
    · exact h.radii
    · exact h.idle
  | edit t =>
    rw [after_edit h.idle]
    split
    · exact h.congr ..
    · exact (h.adopt ..).refreshSearch
  | undo | redo =>
    rw [after_recalls h.idle rfl]
    exact h.shown _
  | format => exact after_format h.idle ▸ h.write _
  | updateCell _ _ _ | addRow | deleteRow | applyTable =>
    rw [after_redraws h.idle rfl]
    exact h.redrawn _
  | replaceCurrent _ | replaceAll _ =>
    rw [after_replaces h.idle rfl]
    exact h.replaced _
  | check | selectRow _ | find _ _ | findNext | findPrevious => exact h.looks rfl
  | pointerMove _ | pointerLeave | click _ => exact h.looks rfl

lemma new (c : SessionConfig) (t : Text) : Coherent c (Session.new c t) := by
  rw [new_eq]
  apply of_adopt <;> rfl

lemma run (c : SessionConfig) (t : Text) (rs : List Request) : Coherent c ((Session.new c t).run rs) :=
  run_induction (new c t) (fun _ r h => h.after r) rs

end Session.Coherent

/-- Whatever was asked of a session, it is idle again, and its text, its analysis and its open ring belong
together. -/
theorem Session.coherent_after_requests (c : SessionConfig) (t : Text) (rs : List Request) :
    let s := (Session.new c t).run rs
    s.config = c ∧ s.phase = .idle ∧ s.text = s.history.current ∧
      s.analysis = Analysis.of s.text c.transform ∧
      ∀ e, s.pointer.expanded = some e → ∃ k ∈ s.analysis.projection.clusters,
        k.key = e.key ∧ 1 < k.members.length ∧ k.center = e.center ∧ ring k c.radii.ring = e.subNodes := by
  intro s
  have h : Coherent c s := Coherent.run c t rs
  refine ⟨h.config, h.idle, h.text, h.analysis, fun e he => ?_⟩
  obtain ⟨k, hk, hkey, hm, hc, hr⟩ := h.ring e he
  refine ⟨k, hk, hkey, hm, hc, ?_⟩
  rwa [h.radii] at hr

end Toolpath.Editor
