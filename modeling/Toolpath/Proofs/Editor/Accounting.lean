import Mathlib.Data.List.Chain
import Toolpath.Proofs.Editor.Coherence
import Toolpath.Proofs.Program.Walk

/-!
What a change of the document leaves behind. A request that says it changed the text has changed it, has
announced that once, and has made one step in the history; a request that says it did not has left text,
history, analysis and subscribers alone.
-/

namespace Toolpath.Editor

open Program

def Request.source? : Request → Option Source
  | .edit _ => some .user
  | .undo | .redo => some .history
  | .format | .updateCell _ _ _ | .addRow | .deleteRow | .applyTable => some .core
  | .replaceCurrent _ | .replaceAll _ => some .core
  | _ => none

def Response.changed : Response → Bool
  | .flag b => b
  | .text _ => true
  | _ => false

def changeEvents (source : Source) (t : Text) : List Event :=
  .textChanged source (trace t).nodes.length ::
    (((statements t).find? (·.kind = .relative)).map fun x => Event.relativeModeAborted x.line).toList

def Bus.publishAll (b : Bus) (es : List Event) : Bus := es.foldl (fun b e => (b.publish e).2) b

lemma Bus.announce_eq (b : Bus) (t : Text) (f : Scene.Transform) (source : Source) :
    b.announce (.of t f) source = b.publishAll (changeEvents source t) := by
  simp only [Bus.announce, Analysis.of, Scene.project, trace_eq, Option.map_map, changeEvents]
  cases (statements t).find? (·.kind = .relative) <;> rfl

namespace History

variable {h h' : History} {source : Source}

structure Sound (h : History) : Prop where
  past : (h.current :: h.past).IsChain (· ≠ ·)
  future : (h.current :: h.future).IsChain (· ≠ ·)
  depth : 0 < h.depth

def Moves (h h' : History) : Source → Prop
  | .history => h.undo? = some h' ∨ h.redo? = some h'
  | .user | .core => ∃ t, t ≠ h.current ∧ h' = (h.record t).2

lemma push_eq (hd : 0 < h.depth) : h.push = h.current :: h.past.take (h.depth - 1) := by
  obtain ⟨n, hn⟩ := Nat.exists_eq_succ_of_ne_zero (Nat.ne_of_gt hd)
  rw [push, hn]
  rfl

lemma Sound.cons_push (hs : h.Sound) {t : Text} (ht : t ≠ h.current) : (t :: h.push).IsChain (· ≠ ·) := by
  have hp : h.push.IsChain (· ≠ ·) := hs.past.take h.depth
  rw [push_eq hs.depth] at hp ⊢
  exact .cons_cons ht hp

lemma sound_reset (hd : 0 < h.depth) (t : Text) : (h.reset t).Sound := ⟨.singleton _, .singleton _, hd⟩

lemma Sound.record (hs : h.Sound) {t : Text} (ht : t ≠ h.current) : (h.record t).2.Sound := by
  rw [record_of_ne ht]
  exact ⟨hs.cons_push ht, .singleton _, hs.depth⟩

lemma Sound.undo (hs : h.Sound) (hu : h.undo? = some h') : h'.Sound ∧ h'.current ≠ h.current := by
  rw [undo?] at hu
  split at hu
  · cases hu
  · rename_i t past hp
    cases hu
    have hc := hs.past
    rw [hp, List.isChain_cons_cons] at hc
    exact ⟨⟨hc.2, .cons_cons hc.1.symm hs.future, hs.depth⟩, hc.1.symm⟩

lemma Sound.redo (hs : h.Sound) (hr : h.redo? = some h') : h'.Sound ∧ h'.current ≠ h.current := by
  rw [redo?] at hr
  split at hr
  · cases hr
  · rename_i t future hf
    cases hr
    have hc := hs.future
    rw [hf, List.isChain_cons_cons] at hc
    exact ⟨⟨hs.cons_push hc.1.symm, hc.2, hs.depth⟩, hc.1.symm⟩

lemma Sound.moves (hs : h.Sound) (hm : h.Moves h' source) : h'.Sound ∧ h'.current ≠ h.current := by
  cases source with
  | history =>
    rcases hm with hu | hr
    · exact hs.undo hu
    · exact hs.redo hr
  | user | core =>
    obtain ⟨t, ht, rfl⟩ := hm
    refine ⟨hs.record ht, ?_⟩
    rwa [record_current]

lemma Sound.record_undo (hs : h.Sound) {t : Text} (ht : t ≠ h.current) :
    ∃ back, (h.record t).2.undo? = some back ∧ back.current = h.current ∧
      ∃ again, back.redo? = some again ∧ again.current = t := by
  rw [record_of_ne ht, push_eq hs.depth]
  exact ⟨_, rfl, rfl, _, rfl, rfl⟩

end History

namespace Session

variable {c : SessionConfig} {s s' : Session} {source : Source}

structure Stands (s s' : Session) : Prop where
  text : s'.text = s.text
  history : s'.history = s.history
  analysis : s'.analysis = s.analysis
  bus : s'.bus = s.bus

structure Shows (s s' : Session) (h : History) (source : Source) : Prop where
  history : s'.history = h
  text : s'.text = h.current
  bus : s'.bus = s.bus.publishAll (changeEvents source h.current)

def Settles (s : Session) (source : Source) (x : Response × Session) : Prop :=
  x.1.changed = false ∧ s.Stands x.2 ∨
    x.1.changed = true ∧ ∃ h, s.history.Moves h source ∧ s.Shows x.2 h source

lemma stands_self (s : Session) : s.Stands s := ⟨rfl, rfl, rfl, rfl⟩

lemma shows_adopt (s : Session) (h : History) (echo : Option Text) (source : Source) :
    s.Shows (s.adopt h echo source) h source :=
  ⟨rfl, rfl, Bus.announce_eq ..⟩

lemma Stands.congr (h : s.Stands s') (m : Table.Model) (q : Search) :
    s.Stands { s' with table := m, search := q } :=
  ⟨h.text, h.history, h.analysis, h.bus⟩

lemma Shows.congr {x : History} (h : s.Shows s' x source) (m : Table.Model) (q : Search) :
    s.Shows { s' with table := m, search := q } x source :=
  ⟨h.history, h.text, h.bus⟩

lemma Settles.congr {x : Response × Session} (h : s.Settles source x) (m : Table.Model) (q : Search) :
    s.Settles source (x.1, { x.2 with table := m, search := q }) := by
  rcases h with ⟨hr, hs⟩ | ⟨hr, y, hm, hs⟩
  · exact .inl ⟨hr, hs.congr m q⟩
  · exact .inr ⟨hr, y, hm, hs.congr m q⟩

lemma settles_write (s : Session) (t : Text) :
    s.Settles .core (.flag (decide (t ≠ s.history.current)), s.write t) := by
  rw [Session.write]
  split
  · rename_i ht
    exact .inl ⟨by simp [Response.changed, ht], stands_self s⟩
  · rename_i ht
    refine .inr ⟨by simp [Response.changed, ht], _, ⟨t, ht, rfl⟩, ?_⟩
    exact shows_adopt ..

lemma settles_applyTable (h : s.phase = .idle) :
    s.Settles .core (s.applyTable.map (.ofExcept .flag) id) := by
  simp only [applyTable, applyExternal_eq h]
  split
  · exact .inl ⟨rfl, (stands_self s).congr _ s.search⟩
  · have hw := settles_write s (s.table.toText s.text)
    cases s.table.selected with
    | none => exact hw
    | some row => exact hw.congr _ (s.write _).search

lemma Settles.of_table {m : Table.Model} {x : Response × Session}
    (h : ({ s with table := m } : Session).Settles source x) : s.Settles source x := by
  rcases h with ⟨hr, hs⟩ | ⟨hr, y, hm, hs⟩
  · exact .inl ⟨hr, hs.text, hs.history, hs.analysis, hs.bus⟩
  · exact .inr ⟨hr, y, hm, hs.history, hs.text, hs.bus⟩

lemma settles_refused (s : Session) (source : Source) (e : EditorError) :
    s.Settles source (.failed e, s) := .inl ⟨rfl, stands_self s⟩

lemma settles_edit (h : s.phase = .idle) (t : Text) : s.Settles .user (s.perform (.edit t)) := by
  simp only [perform, edit_eq h]
  split
  · exact .inl ⟨rfl, rfl, rfl, rfl, rfl⟩
  · rename_i ht
    refine .inr ⟨rfl, _, ⟨t, (not_or.mp ht).2, rfl⟩, ?_⟩
    simp only [Prod.map, id, refreshSearch_eq]
    exact (shows_adopt ..).congr _ _

lemma settles_replay (x : History) (hm : s.history.Moves x .history) :
    s.Settles .history ((s.replay x).map (.ofExcept .text) id) := by
  refine .inr ⟨rfl, x, hm, ?_⟩
  simp only [Prod.map, id, replay_eq, shown, refreshSearch_eq]
  exact (shows_adopt ..).congr _ _

lemma settles_recalls (h : s.phase = .idle) {r : Request} (hr : r.recalls) :
    s.Settles .history (s.perform r) := by
  cases r with
  | undo =>
    simp only [perform, undo, whenIdle_of_idle h]
    cases hu : s.history.undo? with
    | none => exact settles_refused s .history .nothingToUndo
    | some x => exact settles_replay x (.inl hu)
  | redo =>
    simp only [perform, redo, whenIdle_of_idle h]
    cases hu : s.history.redo? with
    | none => exact settles_refused s .history .nothingToRedo
    | some x => exact settles_replay x (.inr hu)
  | _ => cases hr

lemma settles_redraws (h : s.phase = .idle) {r : Request} (hr : r.redraws) :
    s.Settles .core (s.perform r) := by
  have hm : ∀ m, s.Settles .core ((({ s with table := m } : Session).applyTable).map (.ofExcept .flag) id) :=
    fun m => (settles_applyTable (s := { s with table := m }) h).of_table
  cases r with
  | updateCell row f typed =>
    simp only [perform, updateCell, whenIdle_of_idle h]
    cases s.table.updateCell row f typed with
    | ok m => exact hm m
    | error e => exact settles_refused s .core _
  | addRow =>
    simp only [perform, addRow, whenIdle_of_idle h]
    exact hm _
  | deleteRow =>
    simp only [perform, deleteSelectedRow, whenIdle_of_idle h]
    rcases s.table.deleteSelected with ⟨_ | _, m⟩
    · exact .inl ⟨rfl, stands_self s⟩
    · exact hm m
  | applyTable => exact settles_applyTable h
  | _ => cases hr

lemma settles_applyAndRefresh (h : s.phase = .idle) (t : Text) :
    s.Settles .core ((s.applyAndRefresh t).map (.ofExcept .flag) id) := by
  simp only [applyAndRefresh, applyExternal_eq h, Prod.map, id, refreshSearch_eq]
  exact (settles_write s t).congr _ _

lemma settles_replaces (h : s.phase = .idle) {r : Request} (hr : r.replaces) :
    s.Settles .core (s.perform r) := by
  cases r with
  | replaceCurrent w =>
    simp only [perform, replaceCurrent]
    cases s.search.currentMatch with
    | none => exact .inl ⟨rfl, stands_self s⟩
    | some m => exact settles_applyAndRefresh h _
  | replaceAll w =>
    simp only [perform, replaceAll]
    rcases s.search.replaceEach s.text w with e | _ | t
    · exact settles_refused s .core _
    · exact .inl ⟨rfl, stands_self s⟩
    · exact settles_applyAndRefresh h t
  | _ => cases hr

lemma settles_perform (h : s.phase = .idle) {r : Request} (hr : r.source? = some source) :
    s.Settles source (s.perform r) := by
  cases r with
  | edit t =>
    cases hr
    exact settles_edit h t
  | undo | redo =>
    cases hr
    exact settles_recalls h rfl
  | format =>
    cases hr
    simp only [perform, format, applyExternal_eq h]
    exact settles_write s _
  | updateCell _ _ _ | addRow | deleteRow | applyTable =>
    cases hr
    exact settles_redraws h rfl
  | replaceCurrent _ | replaceAll _ =>
    cases hr
    exact settles_replaces h rfl
  | _ => cases hr

lemma sound_looks (hs : s.history.Sound) {r : Request} (hr : r.looks) : (s.after r).history.Sound := by
  obtain ⟨m, b, -, he⟩ := after_looks (s := s) hr
  exact he ▸ hs

lemma Coherent.sound_after (h : Coherent c s) (hs : s.history.Sound) (r : Request) :
    (s.after r).history.Sound := by
  cases hr : r.source? with
  | some source =>
    rcases settles_perform h.idle hr with ⟨-, hx⟩ | ⟨-, x, hm, hx⟩
    · exact hx.history ▸ hs
    · exact hx.history ▸ (hs.moves hm).1
  | none =>
    cases r with
    | load t =>
      rw [after_load h.idle]
      exact History.sound_reset hs.depth t
    | check | selectRow _ | find _ _ | findNext | findPrevious => exact sound_looks hs rfl
    | pointerMove _ | pointerLeave | click _ => exact sound_looks hs rfl
    | _ => cases hr

lemma sound_run (c : SessionConfig) (t : Text) (rs : List Request) :
    ((new c t).run rs).history.Sound := by
  induction rs using List.reverseRecOn with
  | nil =>
    rw [run_nil, new_eq]
    exact ⟨.singleton _, .singleton _, Nat.lt_of_lt_of_le Nat.one_pos (Nat.le_max_right _ _)⟩
  | append_singleton rs r ih =>
    rw [run_concat]
    exact (Coherent.run c t rs).sound_after ih r

lemma perform_undo (h : s.phase = .idle) {x : History} (hu : s.history.undo? = some x) :
    s.perform .undo = (.text x.current, s.shown (some x)) := by
  simp only [perform, undo, whenIdle_of_idle h, hu, ← replay_eq]
  rfl

lemma perform_redo (h : s.phase = .idle) {x : History} (hr : s.history.redo? = some x) :
    s.perform .redo = (.text x.current, s.shown (some x)) := by
  simp only [perform, redo, whenIdle_of_idle h, hr, ← replay_eq]
  rfl

lemma history_shown (s : Session) (x : History) : (s.shown (some x)).history = x := by
  rw [shown, refreshSearch_eq]
  rfl

lemma Coherent.undone (h : Coherent c s) {x : History} (hx : x.Sound) {t : Text} (ht : t ≠ x.current)
    (hs : s.history = (x.record t).2) :
    (s.perform .undo).1 = .text x.current ∧ ((s.after .undo).perform .redo).1 = .text t := by
  obtain ⟨back, hu, hb, again, hr, ha⟩ := hx.record_undo ht
  have hundo := perform_undo h.idle (hs ▸ hu)
  have hback : Coherent c (s.after .undo) := h.after .undo
  have hredo : (s.after .undo).history.redo? = some again := by
    rw [Session.after, hundo, history_shown]
    exact hr
  rw [hundo, perform_redo hback.idle hredo, hb, ha]
  exact ⟨rfl, rfl⟩

/-- Whoever listens, and whatever was asked before: a request that says it changed the text has published
the change of a text that is another one now, and can be undone and redone unless it was such a step
itself; a request that says it did not has changed and published nothing. -/
theorem changes_accounted (c : SessionConfig) (t : Text) (rs : List Request) (b : Bus) {r : Request}
    {source : Source} (hr : r.source? = some source) :
    let s : Session := { (new c t).run rs with bus := b }
    let s' := s.after r
    ((s.perform r).1.changed = true →
      s'.text ≠ s.text ∧ s'.bus = b.publishAll (changeEvents source s'.text) ∧
      (source ≠ .history →
        s'.history.past.length = min (s.history.past.length + 1) s.history.depth ∧
        s'.history.depth = s.history.depth ∧ s'.history.future = [] ∧
        (s'.perform .undo).1 = .text s.text ∧ ((s'.after .undo).perform .redo).1 = .text s'.text)) ∧
    ((s.perform r).1.changed = false →
      s'.text = s.text ∧ s'.history = s.history ∧ s'.analysis = s.analysis ∧ s'.bus = b) := by
  intro s s'
  have h : Coherent c s := (Coherent.run c t rs).congr _ _ b _
  have hs : s.history.Sound := sound_run c t rs
  rcases settles_perform h.idle hr with ⟨hn, hx⟩ | ⟨hy, x, hm, hx⟩
  · refine ⟨fun hy => ?_, fun _ => ⟨hx.text, hx.history, hx.analysis, hx.bus⟩⟩
    rw [hn] at hy
    cases hy
  refine ⟨fun _ => ?_, fun hn => ?_⟩
  · have hne : x.current ≠ s.history.current := (hs.moves hm).2
    have ht : s'.text = x.current := hx.text
    refine ⟨?_, ?_, fun hsource => ?_⟩
    · rwa [ht, h.text]
    · rw [ht]
      exact hx.bus
    obtain ⟨u, hu, hxu⟩ : ∃ u, u ≠ s.history.current ∧ x = (s.history.record u).2 := by
      cases source with
      | history => exact absurd rfl hsource
      | user | core => exact hm
    have hhist : s'.history = (s.history.record u).2 := hx.history.trans hxu
    have htu : s'.text = u := by rw [ht, hxu, History.record_current]
    rw [htu, h.text, hhist, History.record_of_ne hu]
    refine ⟨?_, rfl, rfl, (h.after r).undone hs hu hhist⟩
    simp [History.push, Nat.min_comm]
  · rw [hy] at hn
    cases hn

theorem edit_accounted :
    let s := new .default "G1 X1".toList
    let s' := s.after (.edit "G1 X1\nG91".toList)
    s'.text ≠ s.text ∧ s'.bus = s.bus.publishAll [.textChanged .user 1, .relativeModeAborted 1] ∧
      (s'.perform .undo).1 = .text s.text := by
  have h := (changes_accounted .default "G1 X1".toList [] (new .default "G1 X1".toList).bus
    (r := .edit "G1 X1\nG91".toList) rfl).1 rfl
  exact ⟨h.1, h.2.1, (h.2.2 (by decide)).2.2.2.1⟩

end Session

end Toolpath.Editor
