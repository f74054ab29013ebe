import Toolpath.Proofs.Editor.Accounting
import Toolpath.Proofs.Editor.Drift
import Toolpath.Proofs.Editor.Lines
import Toolpath.Proofs.Scene.Hits
import Toolpath.Proofs.Table.LastFeed

/-!
Picking a line on the canvas or in the table. Whatever the cells of the table hold, its rows stand on the
lines of the nodes in the same order, so that both ways to pick a node end on one line of the document.
-/

namespace Toolpath.Program

lemma line_lt_of_mem_nodes {t : Text} {n : Node} (h : n ∈ (trace t).nodes) : n.line < (Text.lines t).length := by
  rw [nodes_trace] at h
  exact line_lt_of_mem_nodesOf h

end Toolpath.Program

namespace Toolpath.Table

open Program

lemma map_line_toRows (t : Text) : (toRows t).map (·.line) = (trace t).nodes.map fun n => some n.line := by
  rw [toRows_eq, nodes_trace]
  refine List.ext_getElem? fun i => ?_
  simp [rowAt, nodeAt, Function.comp_def]

lemma map_line_modify (rows : List Row) (row : Nat) (f : Field) (v : Option Float) :
    (rows.modify row (·.set f v)).map (·.line) = rows.map (·.line) :=
  map_modify_of_eq (fun r => by cases f <;> rfl) rows row

structure Model.Lists (m : Model) (t : Text) : Prop where
  lines_eq : m.rows.map (·.line) = (toRows t).map (·.line)
  hasAxis : ∀ r ∈ m.rows, r.hasAxis

namespace Model

variable {m : Model} {t : Text}

lemma lists_of_rows (h : m.rows = toRows t) : m.Lists t := ⟨by rw [h], fun _ hr => hasAxis_of_mem_toRows (h ▸ hr)⟩

lemma Lists.congr {m' : Model} (h : m.Lists t) (hr : m'.rows = m.rows) : m'.Lists t := by
  obtain ⟨hl, ha⟩ := h
  rw [← hr] at hl ha
  exact ⟨hl, ha⟩

lemma Lists.length_eq (h : m.Lists t) : m.rows.length = (toRows t).length := by
  simpa using congrArg List.length h.lines_eq

-- As many rows are read back as have a coordinate, so that none has lost its last one.
lemma Lists.updateCell (h : m.Lists t) {row : Nat} {f : Field} {v : Option Float}
    (hne : m.rows.modify row (·.set f v) ≠ []) (ht : Table.ofRows (m.rows.modify row (·.set f v)) t = t) (x : Option Nat) :
    Lists ⟨m.rows.modify row (·.set f v), x⟩ t := by
  have hcount := length_toRows_ofRows hne t
  rw [ht, ← h.length_eq] at hcount
  refine ⟨(map_line_modify ..).trans h.lines_eq, List.countP_eq_length.mp ?_⟩
  rw [List.length_modify]
  exact hcount.symm

end Model

end Toolpath.Table

namespace Toolpath.Scene

def Click.ringEvents : Click → List Editor.Event
  | .expanded label members => [.clusterExpanded label members]
  | .collapsed => [.clusterCollapsed]
  | .selectNode _ | .nothing => []

lemma Click.lineSelected_not_mem (k : Click) (line : Nat) : .lineSelected line ∉ k.ringEvents := by
  cases k <;> simp [ringEvents]

end Toolpath.Scene

namespace Toolpath.Editor

open Program Scene Table Text

structure Span.CutsLine (x : Span) (t : Text) (line : Nat) : Prop where
  ordered : x.start ≤ x.stop
  within : x.stop ≤ t.length
  begins : (t.take x.start).count '\n' = line
  cuts : (lines t)[line]? = some ((t.take x.stop).drop x.start)

namespace Buffer

variable {b : Buffer} {line : Nat}

lemma cutsLine_of_lineSpan? {x : Span} (h : b.lineSpan? line = some x) : x.CutsLine b.text line := by
  obtain ⟨before, l, feed, rest, hcut, rfl⟩ := cut_of_lineSpan? h
  refine ⟨Nat.le_add_right .., hcut.stop_le, ?_, ?_⟩
  · rw [hcut.take_start, hcut.count_before]
  · rw [hcut.getElem?_lines]
    exact congrArg some hcut.slice_eq.symm

lemma exists_lineSpan? (h : line < b.lineCount) : ∃ x, b.lineSpan? line = some x := by
  obtain ⟨before, l, feed, rest, hcut⟩ := exists_cut_of_lt h
  exact ⟨_, hcut.lineSpan?_eq⟩

end Buffer

namespace Session

variable {c : SessionConfig} {s s' : Session}

/-- The selection is that of a node, on its line. -/
structure Picks (s : Session) (n : Nat) (x : Selection) : Prop where
  node : x.node = some n
  line : s.analysis.trace.lineOfNode? n = some x.line
  span : x.span.CutsLine s.text x.line

def Listed (s : Session) : Prop := s.table.Lists s.text

lemma InSync.listed (h : s.InSync) : s.Listed := Model.lists_of_rows h

lemma Listed.of_syncs (h : s.Listed) (hs : s.Syncs s') : s'.Listed := by
  rcases hs with hs | ⟨hrows, htext⟩
  · exact hs.listed
  · rw [Listed, htext]
    exact h.congr hrows

lemma Coherent.listed_redrawn (h : Coherent c s) {m : Model}
    (hm : m.rows ≠ [] → m.toText s.text = s.text → m.Lists s.text) : (s.redrawn (some m)).Listed := by
  rw [redrawn_some h.idle]
  split
  · exact InSync.listed rfl
  · rename_i he
    have hne : m.rows ≠ [] := fun hn => he (List.isEmpty_iff.mpr hn)
    have hw : (({ s with table := m } : Session).write (m.toText s.text)).Listed := by
      rw [Session.write]
      split
      · rename_i ht
        exact hm hne (ht.trans h.text.symm)
      · exact (inSync_adopt ..).listed
    exact hw.congr (Model.reselect_rows ..)

lemma Coherent.listed_after (h : Coherent c s) (hl : s.Listed) (r : Request) : (s.after r).Listed := by
  cases r with
  | updateCell row f typed =>
    rw [after_redraws h.idle rfl, Request.redraw?, Model.updateCell]
    split
    · exact h.listed_redrawn fun hne ht => hl.updateCell hne ht _
    · exact hl
  | addRow =>
    rw [after_redraws h.idle rfl]
    apply (h.inSync_resized (Model.mem_addRow hl.hasAxis) ?_).listed
    rw [Model.length_addRow, hl.length_eq]
    exact Nat.succ_ne_self _
  | deleteRow =>
    rw [after_redraws h.idle rfl, Request.redraw?]
    split
    · rename_i hd
      have hlen := Model.length_deleteSelected hd
      rw [hl.length_eq] at hlen
      exact (h.inSync_resized (Model.mem_deleteSelected hl.hasAxis) (by omega)).listed
    · exact hl
  | applyTable =>
    rw [after_redraws h.idle rfl]
    exact h.listed_redrawn fun _ _ => hl
  | _ => exact hl.of_syncs (h.syncs_after Bool.false_ne_true)

lemma listed_run (c : SessionConfig) (t : Text) (rs : List Request) : ((new c t).run rs).Listed := by
  have h : Coherent c ((new c t).run rs) ∧ ((new c t).run rs).Listed := by
    refine run_induction (P := fun s => Coherent c s ∧ s.Listed) ⟨Coherent.new c t, (inSync_new c t).listed⟩ ?_ rs
    rintro s r ⟨h, hl⟩
    exact ⟨h.after r, h.listed_after hl r⟩
  exact h.2

lemma Picks.eta {n : Nat} {x : Selection} (hx : s.Picks n x) : ⟨some n, x.line, x.span⟩ = x := by
  rw [← hx.node]

lemma Coherent.trace_eq (h : Coherent c s) : s.analysis.trace = trace s.text := by
  rw [h.analysis]
  rfl

lemma Coherent.exists_picks (h : Coherent c s) {n : Nat} (hn : n < s.analysis.trace.nodes.length) :
    ∃ x, s.Picks n x ∧ s.buffer.lineSpan? x.line = some x.span := by
  have hline : s.analysis.trace.nodes[n].line < s.buffer.lineCount := by
    rw [Buffer.lineCount_eq]
    exact line_lt_of_mem_nodes (h.trace_eq ▸ List.getElem_mem hn)
  obtain ⟨x, hx⟩ := Buffer.exists_lineSpan? hline
  refine ⟨⟨some n, _, x⟩, ⟨rfl, ?_, Buffer.cutsLine_of_lineSpan? hx⟩, hx⟩
  rw [Trace.lineOfNode?, List.getElem?_eq_getElem hn]
  rfl

lemma Coherent.lt_of_click (h : Coherent c s) {p : Point} {n : Nat}
    (hn : (s.pointer.click p s.clusters).1 = .selectNode n) : n < s.analysis.trace.nodes.length := by
  have ha := h.analysis
  have hring := h.ring
  rw [clusters, ha] at hn hring
  obtain ⟨k, hk, hm⟩ := hring.mem_of_click (Cluster.gathers_ofDots _) hn
  rw [ha]
  exact lt_of_mem_members hk hm

lemma click_selectNode {p : Point} {n : Nat} {x : Selection} (hn : (s.pointer.click p s.clusters).1 = .selectNode n)
    (hx : s.Picks n x) (hs : s.buffer.lineSpan? x.line = some x.span) :
    (s.click p).1 = some x ∧ (s.click p).2.bus = (s.bus.publish (.lineSelected x.line)).2 := by
  have hclick : s.click p = (some x, ({ s with pointer := (s.pointer.click p s.clusters).2 } : Session).publish
      (.lineSelected x.line)) := by
    simp only [click, hn, hx.line, selectLine, hs, hx.eta]
  rw [hclick]
  exact ⟨rfl, rfl⟩

lemma click_other {p : Point} (hn : ∀ n, (s.pointer.click p s.clusters).1 ≠ .selectNode n) :
    (s.click p).1 = none ∧
      (s.click p).2.bus = s.bus.publishAll (s.pointer.click p s.clusters).1.ringEvents := by
  rw [click]
  rcases hc : s.pointer.click p s.clusters with ⟨n | _ | _ | _, q⟩
  · exact absurd (congrArg Prod.fst hc) (hn n)
  · exact ⟨rfl, rfl⟩
  · exact ⟨rfl, rfl⟩
  · exact ⟨rfl, rfl⟩

lemma Coherent.length_rows (h : Coherent c s) (hl : s.Listed) :
    s.table.rows.length = s.analysis.trace.nodes.length := by
  rw [h.trace_eq]
  simpa using congrArg List.length (hl.lines_eq.trans (map_line_toRows s.text))

lemma Coherent.selectRow_picks (h : Coherent c s) (hl : s.Listed) {row : Nat} {x : Selection} (hx : s.Picks row x)
    (hs : s.buffer.lineSpan? x.line = some x.span) : (s.selectRow row).1 = some x := by
  obtain ⟨n, hn, hline⟩ := Option.map_eq_some_iff.mp hx.line
  have hrow : s.table.rows[row]?.map (·.line) = some (some x.line) := by
    rw [← List.getElem?_map, hl.lines_eq, map_line_toRows, List.getElem?_map, ← h.trace_eq, hn, Option.map_some, hline]
  obtain ⟨r, hr, hrl⟩ := Option.map_eq_some_iff.mp hrow
  have hnode : s.analysis.trace.nodeOfLine? x.line = some row := by
    rw [h.trace_eq] at hn ⊢
    exact nodeOfLine?_trace_eq_some.mpr ⟨n, hn, hline⟩
  simp only [selectRow, Model.select, hr, hrl, hnode, selectLine, hs, hx.eta]

/-- Whatever was asked of a session, a click that selects a node selects the line of that node in the document
and tells so once, and every other click selects nothing; and the table has a row for each node, which selects
the same as a click on the node. -/
theorem canvas_and_table_pick_alike (c : SessionConfig) (t : Text) (rs : List Request) (b : Bus) :
    let s : Session := { (new c t).run rs with bus := b }
    (∀ p, let outcome := (s.pointer.click p s.clusters).1
      (∀ n, outcome = .selectNode n → ∃ x, (s.click p).1 = some x ∧ s.Picks n x ∧
        (s.click p).2.bus = (b.publish (.lineSelected x.line)).2) ∧
      ((∀ n, outcome ≠ .selectNode n) → (s.click p).1 = none ∧
        (s.click p).2.bus = b.publishAll outcome.ringEvents ∧ ∀ line, .lineSelected line ∉ outcome.ringEvents)) ∧
    s.table.rows.length = s.analysis.trace.nodes.length ∧
    ∀ row < s.table.rows.length, ∃ x, (s.selectRow row).1 = some x ∧ s.Picks row x ∧
      ∀ p, (s.pointer.click p s.clusters).1 = .selectNode row → (s.click p).1 = some x := by
  intro s
  have h : Coherent c s := (Coherent.run c t rs).congr _ _ b _
  have hl : s.Listed := listed_run c t rs
  refine ⟨fun p => ⟨fun n hn => ?_, fun hn => ?_⟩, h.length_rows hl, fun row hrow => ?_⟩
  · obtain ⟨x, hx, hs⟩ := h.exists_picks (h.lt_of_click hn)
    obtain ⟨hsome, hbus⟩ := click_selectNode hn hx hs
    exact ⟨x, hsome, hx, hbus⟩
  · obtain ⟨hnone, hbus⟩ := click_other hn
    exact ⟨hnone, hbus, Click.lineSelected_not_mem _⟩
  · rw [h.length_rows hl] at hrow
    obtain ⟨x, hx, hs⟩ := h.exists_picks hrow
    exact ⟨x, h.selectRow_picks hl hx hs, hx, fun p hp => (click_selectNode hp hx hs).1⟩

example : ((new .default "G90\nG1 X50".toList).click ⟨Float.ofNat 650, Float.ofNat 300⟩).1 =
    some ⟨some 0, 1, 4, 10⟩ := by
  decide +kernel

end Session

end Toolpath.Editor
