import Toolpath.Proofs.Editor.Accounting

/-!
A history as a timeline: the snapshots in the order in which they were taken, and a cursor at the current
one. The two stacks are the timeline cut at its cursor.
-/

namespace Toolpath.Editor

structure Timeline where
  snapshots : List Text
  cursor : Nat
  deriving DecidableEq, Repr

inductive History.Step
  | record (t : Text)
  | undo
  | redo
  | reset (t : Text)
  deriving DecidableEq, Repr

namespace Timeline

def start (t : Text) : Timeline := ⟨[t], 0⟩

def goTo (l : Timeline) (cursor : Nat) (e : EditorError) : Response × Timeline :=
  match l.snapshots[cursor]? with
  | some t => (.text t, ⟨l.snapshots, cursor⟩)
  | none => (.failed e, l)

def append (l : Timeline) (t : Text) (depth : Nat) : Timeline :=
  let all := l.snapshots.take (l.cursor + 1) ++ [t]
  let kept := all.drop (all.length - (depth + 1))
  ⟨kept, kept.length - 1⟩

def perform (depth : Nat) (l : Timeline) : History.Step → Response × Timeline
  | .record t =>
    if l.snapshots[l.cursor]? = some t then (.flag false, l) else (.flag true, l.append t depth)
  | .undo => if l.cursor = 0 then (.failed .nothingToUndo, l) else l.goTo (l.cursor - 1) .nothingToUndo
  | .redo => l.goTo (l.cursor + 1) .nothingToRedo
  | .reset t => (.done, start t)

end Timeline

namespace History

def perform (h : History) : Step → Response × History
  | .record t => (h.record t).map .flag id
  | .undo => match h.undo? with
    | some x => (.text x.current, x)
    | none => (.failed .nothingToUndo, h)
  | .redo => match h.redo? with
    | some x => (.text x.current, x)
    | none => (.failed .nothingToRedo, h)
  | .reset t => (.done, h.reset t)

def runWith {α : Type} (perform : α → Step → Response × α) (s : α) (steps : List Step) : List Response × α :=
  steps.foldl (fun (answers, s) x => (answers ++ [(perform s x).1], (perform s x).2)) ([], s)

def timeline (h : History) : Timeline := ⟨h.past.reverse ++ h.current :: h.future, h.past.length⟩

structure Tells (h : History) (l : Timeline) (depth : Nat) : Prop where
  timeline_eq : h.timeline = l
  current_eq : l.snapshots[l.cursor]? = some h.current
  length_past : h.past.length = l.cursor
  length_future : h.future.length = l.snapshots.length - 1 - l.cursor
  bounded : h.past.length + h.future.length ≤ depth
  depth_eq : h.depth = depth
  neighbours : l.snapshots.IsChain (· ≠ ·)
  recalled_ne : ∀ x, h.undo? = some x ∨ h.redo? = some x → x.current ≠ h.current

structure Bounded (h : History) : Prop extends h.Sound where
  bounded : h.past.length + h.future.length ≤ h.depth

variable {h : History}

lemma getElem?_timeline (h : History) : h.timeline.snapshots[h.timeline.cursor]? = some h.current := by
  simp [timeline]

lemma isChain_timeline (hs : h.Sound) : h.timeline.snapshots.IsChain (· ≠ ·) := by
  have hp : (h.past.reverse ++ [h.current]).IsChain (· ≠ ·) := by
    rw [← List.reverse_cons, List.isChain_reverse]
    exact hs.past.imp fun _ _ => Ne.symm
  exact List.isChain_split.mpr ⟨hp, hs.future⟩

lemma timeline_record {t : Text} (ht : t ≠ h.current) :
    (h.record t).2.timeline = h.timeline.append t h.depth := by
  have hall : h.timeline.snapshots.take (h.timeline.cursor + 1) ++ [t] = (h.current :: h.past).reverse ++ [t] := by
    simp [timeline, List.take_append, List.take_of_length_le]
  have hlen : ((h.current :: h.past).reverse ++ [t]).length - (h.depth + 1) =
      (h.current :: h.past).length - h.depth := by simp
  have hkept : ((h.current :: h.past).reverse ++ [t]).drop ((h.current :: h.past).length - h.depth) =
      h.push.reverse ++ [t] := by
    rw [List.drop_append_of_le_length (by simp), push, List.reverse_take]
  rw [record_of_ne ht, Timeline.append]
  simp only [hall, hlen, hkept]
  simp [timeline]

lemma push_of_lt (hd : h.past.length < h.depth) : h.push = h.current :: h.past :=
  List.take_of_length_le hd

lemma perform_timeline (hb : h.Bounded) (s : Step) :
    (h.perform s).map id timeline = h.timeline.perform h.depth s := by
  cases s with
  | record t =>
    by_cases ht : t = h.current
    · subst ht
      simp [perform, Timeline.perform, getElem?_timeline]
    · have hne : h.timeline.snapshots[h.timeline.cursor]? ≠ some t := by
        rw [getElem?_timeline]
        exact fun he => ht (Option.some.inj he).symm
      rw [Timeline.perform, if_neg hne, ← timeline_record ht, perform, record_of_ne ht]
      rfl
  | undo =>
    rw [perform, undo?, Timeline.perform]
    cases hp : h.past with
    | nil => simp [timeline, hp]
    | cons p past => simp [timeline, hp, Timeline.goTo]
  | redo =>
    rw [perform, redo?, Timeline.perform]
    cases hf : h.future with
    | nil => simp [timeline, hf, Timeline.goTo]
    | cons f future =>
      have hd : h.past.length < h.depth := by
        have := hb.bounded
        rw [hf, List.length_cons] at this
        omega
      simp [timeline, hf, Timeline.goTo, push_of_lt hd]
  | reset t => rfl

lemma Bounded.perform (hb : h.Bounded) (s : Step) : (h.perform s).2.Bounded := by
  cases s with
  | record t =>
    by_cases ht : t = h.current
    · subst ht
      simpa [History.perform] using hb
    · refine ⟨hb.record ht, ?_⟩
      rw [History.perform, record_of_ne ht]
      exact List.length_take_le ..
  | undo =>
    rw [History.perform]
    cases hu : h.undo? with
    | none => exact hb
    | some x =>
      refine ⟨(hb.undo hu).1, ?_⟩
      have := hb.bounded
      rw [undo?] at hu
      split at hu <;> cases hu
      simp_all
      omega
  | redo =>
    rw [History.perform]
    cases hr : h.redo? with
    | none => exact hb
    | some x =>
      refine ⟨(hb.redo hr).1, ?_⟩
      have := hb.bounded
      rw [redo?] at hr
      split at hr <;> cases hr
      simp_all [push]
      omega
  | reset t => exact ⟨sound_reset hb.depth t, Nat.zero_le _⟩

lemma depth_perform (h : History) (s : Step) : (h.perform s).2.depth = h.depth := by
  cases s with
  | record t =>
    by_cases ht : t = h.current
    · simp [perform, ht]
    · simp [perform, record_of_ne ht]
  | undo =>
    rw [perform, undo?]
    cases h.past <;> rfl
  | redo =>
    rw [perform, redo?]
    cases h.future <;> rfl
  | reset t => rfl

lemma runWith_concat {α : Type} (perform : α → Step → Response × α) (s : α) (steps : List Step) (x : Step) :
    runWith perform s (steps ++ [x]) =
      ((runWith perform s steps).1 ++ [(perform (runWith perform s steps).2 x).1],
        (perform (runWith perform s steps).2 x).2) := by
  simp [runWith]

lemma Bounded.tells (hb : h.Bounded) : h.Tells h.timeline h.depth where
  timeline_eq := rfl
  current_eq := getElem?_timeline h
  length_past := rfl
  length_future := by simp [timeline]
  bounded := hb.bounded
  depth_eq := rfl
  neighbours := isChain_timeline hb.toSound
  recalled_ne x hx := by
    have hm : h.Moves x .history := hx
    exact (hb.moves hm).2

lemma bounded_new (t : Text) (depth : Nat) : (new t depth).Bounded :=
  ⟨⟨.singleton _, .singleton _, Nat.lt_of_lt_of_le Nat.one_pos (Nat.le_max_right _ _)⟩, Nat.zero_le _⟩

lemma runWith_timeline (t : Text) (depth : Nat) (steps : List Step) :
    let x := runWith perform (new t depth) steps
    x.2.Bounded ∧ x.2.depth = max depth 1 ∧
      x.map id timeline = runWith (Timeline.perform (max depth 1)) (.start t) steps := by
  induction steps using List.reverseRecOn with
  | nil => exact ⟨bounded_new t depth, rfl, rfl⟩
  | append_singleton steps s ih =>
    obtain ⟨hb, hd, hx⟩ := ih
    have hstep := perform_timeline hb s
    rw [hd] at hstep
    rw [runWith_concat, runWith_concat, ← hx]
    refine ⟨hb.perform s, (depth_perform _ s).trans hd, ?_⟩
    simp only [Prod.map, id] at hstep ⊢
    rw [← hstep]

/-- Whatever is recorded, undone, redone and reset, a history gives the answers of a timeline with a cursor
and stands where it does. -/
theorem tells_timeline (t : Text) (depth : Nat) (steps : List Step) :
    let x := runWith perform (new t depth) steps
    let y := runWith (Timeline.perform (max depth 1)) (.start t) steps
    x.1 = y.1 ∧ x.2.Tells y.2 (max depth 1) := by
  intro x y
  obtain ⟨hb, hd, hy⟩ := runWith_timeline t depth steps
  have hy : (x.1, x.2.timeline) = y := hy
  rw [← hy, ← hd]
  exact ⟨rfl, hb.tells⟩

example : (runWith perform (new ['a'] 2) [.record ['b'], .record ['c'], .record ['d'], .undo, .undo, .undo, .redo]).1 =
    [.flag true, .flag true, .flag true, .text ['c'], .text ['b'], .failed .nothingToUndo, .text ['c']] := by
  decide

end History

end Toolpath.Editor
