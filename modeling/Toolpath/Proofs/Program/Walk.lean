import Mathlib.Tactic.Lemma
import Toolpath.Program.Check

/-!
The trace and the check walk over the statements with a tracker each, and meet the same nodes. A line leads to
the last node that was recorded for it.
-/

namespace Toolpath.Program

def Tracker.nodes (t : Tracker) : List Statement → List Node
  | [] => []
  | s :: ss =>
    let (n, t) := t.step s
    n.toList ++ nodes t ss

lemma Tracker.step_of_not_motion (t : Tracker) {s : Statement} (h : s.kind.motion? = none) : t.step s = (none, t) := by
  rw [step, h]

lemma Tracker.nodes_cons_of_not_motion (t : Tracker) {s : Statement} (h : s.kind.motion? = none) (ss : List Statement) :
    t.nodes (s :: ss) = t.nodes ss := by
  rw [nodes, t.step_of_not_motion h]
  rfl

def recordLines (m : Entries Nat Nat) (ns : List Node) : Entries Nat Nat :=
  ns.foldl (fun m n => m.insert n.line n.index) m

lemma lookup_recordLines (m : Entries Nat Nat) (ns : List Node) (line : Nat) : (recordLines m ns).lookup line =
    ((ns.reverse.find? (·.line = line)).map (·.index)).or (m.lookup line) := by
  induction ns generalizing m with
  | nil => rfl
  | cons n ns ih =>
    have hcons : recordLines m (n :: ns) = recordLines (m.insert n.line n.index) ns := rfl
    rw [hcons, ih, Entries.lookup_insert, List.reverse_cons, List.find?_append]
    cases ns.reverse.find? (·.line = line) with
    | some _ => rfl
    | none =>
      by_cases hn : line = n.line
      · simp [hn]
      · simp [hn, Ne.symm hn]

lemma Trace.read_eq (r : Trace) (t : Tracker) (ss : List Statement) : r.read t ss =
    ⟨r.nodes ++ t.nodes ss, recordLines r.nodeAtLine (t.nodes ss),
      r.relativeLine.or ((ss.find? (·.kind = .relative)).map (·.line))⟩ := by
  induction ss generalizing r t with
  | nil => simp [read, Tracker.nodes, recordLines]
  | cons s ss ih =>
    rw [read]
    cases hs : s.kind with
    | motion m =>
      rw [Tracker.nodes]
      rcases t.step s with ⟨_ | n, t⟩
      · simp [ih, hs]
      · simp [ih, hs, record, recordLines]
    | absolute => simp [ih, hs, t.nodes_cons_of_not_motion (hs ▸ rfl : s.kind.motion? = none)]
    | relative => simp [ih, hs, t.nodes_cons_of_not_motion (hs ▸ rfl : s.kind.motion? = none), noteRelative]
    | other =>
      have hm : s.kind.motion? = none := hs ▸ rfl
      simp [ih, hs, t.step_of_not_motion hm, t.nodes_cons_of_not_motion hm]

lemma trace_eq (t : Text) : trace t =
    ⟨Tracker.start.nodes (statements t), recordLines [] (Tracker.start.nodes (statements t)),
      ((statements t).find? (·.kind = .relative)).map (·.line)⟩ :=
  Trace.empty.read_eq .start (statements t)

lemma trace_congr {t u : Text} (hn : (trace t).nodes = (trace u).nodes)
    (hr : (trace t).relativeLine = (trace u).relativeLine) : trace t = trace u := by
  have heq : ∀ t : Text, trace t = ⟨(trace t).nodes, recordLines [] (trace t).nodes, (trace t).relativeLine⟩ :=
    fun t => by simp only [trace_eq]
  rw [heq t, heq u, hn, hr]

lemma nodeOfLine?_trace (t : Text) (line : Nat) : (trace t).nodeOfLine? line =
    ((trace t).nodes.reverse.find? (·.line = line)).map (·.index) := by
  simp only [Trace.nodeOfLine?, trace_eq, lookup_recordLines, List.lookup_nil, Option.or_none]

lemma Visits.read_eq (v : Visits) (t : Tracker) (ss : List Statement) : v.read t ss = (t.nodes ss).foldl add v := by
  induction ss generalizing v t with
  | nil => rfl
  | cons s ss ih =>
    rw [read, Tracker.nodes]
    rcases t.step s with ⟨_ | n, t⟩
    · exact ih v t
    · exact ih (v.add n) t

def revisits (ns : List Node) : List Diagnostic := (ns.foldl Visits.add .empty).found

lemma findDuplicates_eq (t : Text) : findDuplicates t = revisits (trace t).nodes := by
  rw [findDuplicates, Visits.read_eq, trace_eq, revisits]

end Toolpath.Program
