import Toolpath.Proofs.Editor.Picking

/-!
The ring as the events tell it. Who listens from the start knows of every ring that is open. A ring that is
closed by a load, by a change of the document that takes its overlap away, or by a click on another node is
closed without an event, and is then told to be open; no other request lets the two differ.
-/

namespace Toolpath.Editor

open Program Scene

def Event.ring? : Event → Option Bool
  | .clusterExpanded _ _ => some true
  | .clusterCollapsed => some false
  | _ => none

def lastSaid (es : List Event) : Option Bool := (es.filterMap Event.ring?).getLast?

def tellsOpen (es : List Event) : Bool := (lastSaid es).getD false

lemma tellsOpen_append (es es' : List Event) : tellsOpen (es ++ es') = (lastSaid es').getD (tellsOpen es) := by
  rw [tellsOpen, lastSaid, List.filterMap_append, List.getLast?_append, Option.getD_or]
  rfl

lemma lastSaid_changeEvents (source : Source) (t : Text) : lastSaid (changeEvents source t) = none := by
  rw [changeEvents]
  cases (statements t).find? (·.kind = .relative) <;> rfl

lemma lastSaid_filter {f : Filter} (hf : f.accepts .clusterCollapsed) (es : List Event) :
    lastSaid (es.filter f.accepts) = lastSaid es := by
  have hring : ∀ e : Event, e.ring?.isSome → f.accepts e := fun e he => by
    cases e with
    | clusterExpanded _ _ | clusterCollapsed => cases f <;> exact hf
    | _ => cases he
  rw [lastSaid, List.filterMap_filter, lastSaid]
  congr 2
  funext e
  split
  · rfl
  · rename_i he
    exact (Option.not_isSome_iff_eq_none.mp (mt (hring e) he)).symm

namespace Bus

variable {b : Bus} {id : Nat} {f : Filter} {es : List Event}

def receivedBy (b : Bus) (id : Nat) : List Event :=
  ((b.subscriptions.find? (·.id = id)).map (·.received)).getD []

def Holds (b : Bus) (id : Nat) (f : Filter) (es : List Event) : Prop :=
  b.subscriptions.find? (·.id = id) = some ⟨id, f, es⟩

lemma Holds.receivedBy_eq (h : b.Holds id f es) : b.receivedBy id = es := by
  rw [receivedBy, h]
  rfl

lemma holds_subscribe (h : b.subscriptions = []) (f : Filter) : (b.subscribe f).2.Holds (b.subscribe f).1 f [] := by
  simp [Holds, subscribe, h]

lemma Holds.publish (h : b.Holds id f es) (e : Event) :
    (b.publish e).2.Holds id f (es ++ [e].filter f.accepts) := by
  have hid : ∀ s : Subscription, (deliver e s).id = s.id := fun s => by rw [deliver]; split <;> rfl
  change (b.subscriptions.map (deliver e)).find? (·.id = id) = _
  rw [List.find?_map]
  simp only [Function.comp_def, hid]
  rw [show b.subscriptions.find? (·.id = id) = some ⟨id, f, es⟩ from h]
  by_cases hf : f.accepts e <;> simp [deliver, hf]

lemma Holds.publishAll (h : b.Holds id f es) (es' : List Event) :
    (b.publishAll es').Holds id f (es ++ es'.filter f.accepts) := by
  induction es' generalizing b es with
  | nil => simpa [Bus.publishAll] using h
  | cons e es' ih =>
    have hnext := ih (h.publish e)
    rwa [List.append_assoc, ← List.filter_append, List.singleton_append] at hnext

end Bus

end Toolpath.Editor

namespace Toolpath.Scene

open Editor

def Click.says? : Click → Option Bool
  | .expanded _ _ => some true
  | .collapsed => some false
  | .selectNode _ | .nothing => none

lemma Click.lastSaid_ringEvents (k : Click) : lastSaid k.ringEvents = k.says? := by
  cases k <;> rfl

namespace Pointer

variable {p : Pointer} {clusters : List Cluster} {spot : Point}

/-- A click beside the open ring that hits a node: it closes the ring and counts as a selection. -/
def Slips (p : Pointer) (spot : Point) (clusters : List Cluster) : Prop :=
  ∃ e, p.expanded = some e ∧ ¬ spot.distance e.center ≤ p.radii.center ∧ p.subNodeAt? spot = none ∧
    ∃ n, p.hit spot clusters = some (.node n)

lemma not_slips (hp : p.expanded = none) : ¬ p.Slips spot clusters := by
  rintro ⟨e, he, -⟩
  rw [hp] at he
  cases he

lemma slips_iff {e : Expanded} (hp : p.expanded = some e) :
    p.Slips spot clusters ↔ ¬ spot.distance e.center ≤ p.radii.center ∧ p.subNodeAt? spot = none ∧
      ∃ n, p.hit spot clusters = some (.node n) := by
  simp [Slips, hp]

lemma isSome_move (p : Pointer) (spot : Point) (clusters : List Cluster) :
    (p.move spot clusters).2.expanded.isSome = (p.expanded.isSome && !(p.move spot clusters).1) := by
  rw [move]
  cases hp : p.expanded with
  | none => simp [hp]
  | some e =>
    dsimp only
    split
    · split <;> simp [hp]
    · simp [hp]

lemma isSome_retain (p : Pointer) (clusters : List Cluster) :
    (p.retain clusters).expanded.isSome ↔
      ∃ e, p.expanded = some e ∧ ∃ k ∈ clusters, k.key = e.key ∧ k.isOverlap := by
  rw [retain]
  cases hp : p.expanded with
  | none => simp [hp]
  | some e =>
    simp only [Option.some.injEq, exists_eq_left']
    split
    · rename_i k hk
      have hk' := List.find?_some hk
      simp only [Bool.and_eq_true, decide_eq_true_eq] at hk'
      exact iff_of_true rfl ⟨k, List.mem_of_find?_eq_some hk, hk'⟩
    · rename_i hnone
      rw [List.find?_eq_none] at hnone
      refine iff_of_false (by simp) ?_
      rintro ⟨k, hk, hkey, ho⟩
      exact hnone k hk (by simp [hkey, ho])

lemma Fits.isSome_iff (h : p.Fits clusters) :
    p.expanded.isSome ↔ ∃ e, p.expanded = some e ∧ ∃ k ∈ clusters, k.key = e.key ∧ k.isOverlap := by
  rw [Option.isSome_iff_exists]
  refine exists_congr fun e => ⟨fun he => ⟨he, ?_⟩, And.left⟩
  obtain ⟨k, hk, hkey, hm, -⟩ := h e he
  exact ⟨k, hk, hkey, decide_eq_true hm⟩

lemma isSome_clickClosed (p : Pointer) (spot : Point) (clusters : List Cluster) :
    (p.clickClosed spot clusters).2.expanded.isSome =
      (p.clickClosed spot clusters).1.says?.getD p.expanded.isSome := by
  rw [clickClosed]
  split
  · rfl
  · split <;> rfl
  · rfl

-- The outcome says what becomes of the ring, or says nothing and leaves it as it is; only a click that slips closes
-- it and says nothing.
lemma isSome_click (p : Pointer) (spot : Point) (clusters : List Cluster) :
    let r := p.click spot clusters
    (r.2.expanded.isSome ↔ r.1.says?.getD p.expanded.isSome = true ∧ ¬ p.Slips spot clusters) ∧
      (p.Slips spot clusters → r.1.says? = none) := by
  intro r
  cases hp : p.expanded with
  | none =>
    have hr : r = p.clickClosed spot clusters := by simp only [r, Pointer.click, hp]
    rw [hr, isSome_clickClosed, hp]
    exact ⟨(and_iff_left (not_slips hp)).symm, fun h => absurd h (not_slips hp)⟩
  | some e =>
    simp only [r, Pointer.click, hp, slips_iff hp]
    split
    · rename_i hc
      simp [Click.says?, hc]
    · rename_i hc
      cases hs : p.subNodeAt? spot with
      | some n => simp [Click.says?, hp]
      | none =>
        have hhit : hit { p with expanded := none } spot clusters = p.hit spot clusters := rfl
        simp only [Pointer.clickClosed, hhit]
        rcases p.hit spot clusters with _ | n | i
        · simp [Click.says?]
        · simp [Click.says?, hc]
        · cases hk : clusters[i]? with
          | none => simp [Click.says?, hk]
          | some k => simp [Click.says?, hk, expand]

end Pointer

end Toolpath.Scene

namespace Toolpath.Editor

open Program Scene

def Request.turns : Request → Bool
  | .load _ | .pointerMove _ | .pointerLeave | .click _ => true
  | _ => false

namespace Session

def TellsRing (s : Session) (id : Nat) : Prop := tellsOpen (s.bus.receivedBy id) = s.pointer.expanded.isSome

/-- The open ring is closed without an event: by a load, by a click that slips, or because no overlapping
cluster is left at its pixel. -/
def Hushes (s : Session) (r : Request) : Prop :=
  match r with
  | .load _ => s.pointer.expanded.isSome
  | .click spot => s.pointer.Slips spot s.clusters
  | .pointerMove _ | .pointerLeave => False
  | r => ∃ e, s.pointer.expanded = some e ∧ ∀ k ∈ (s.after r).clusters, k.key = e.key → ¬ k.isOverlap

structure Retains (s s' : Session) : Prop where
  bus : ∃ es, s'.bus = s.bus.publishAll es ∧ lastSaid es = none
  ring : s'.pointer = s.pointer ∧ s'.clusters = s.clusters ∨ s'.pointer = s.pointer.retain s'.clusters

structure RingStep (s s' : Session) (hushed : Prop) (es : List Event) : Prop where
  bus : s'.bus = s.bus.publishAll es
  ring : s'.pointer.expanded.isSome ↔ (lastSaid es).getD s.pointer.expanded.isSome = true ∧ ¬ hushed
  hush : hushed → s.pointer.expanded.isSome ∧ lastSaid es = none

variable {c : SessionConfig} {s s' : Session}

lemma retains_self (s : Session) : s.Retains s := ⟨⟨[], rfl, rfl⟩, .inl ⟨rfl, rfl⟩⟩

lemma retains_adopt (s : Session) (h : History) (echo : Option Text) (source : Source) :
    s.Retains (s.adopt h echo source) :=
  ⟨⟨_, Bus.announce_eq .., lastSaid_changeEvents ..⟩, .inr rfl⟩

lemma Retains.congr (h : s.Retains s') (m : Table.Model) (q : Search) (echo : Option Text) :
    s.Retains { s' with table := m, search := q, pendingEcho := echo } := ⟨h.bus, h.ring⟩

lemma Retains.refreshSearch (h : s.Retains s') : s.Retains s'.refreshSearch := by
  rw [refreshSearch_eq]
  exact h.congr ..

lemma retains_write (s : Session) (t : Text) : s.Retains (s.write t) := by
  rw [write]
  split
  · exact retains_self s
  · exact retains_adopt ..

lemma retains_shown (s : Session) (x : Option History) : s.Retains (s.shown x) := by
  cases x with
  | none => exact retains_self s
  | some x => exact (retains_adopt ..).refreshSearch

lemma retains_replaced (s : Session) (x : Option Text) : s.Retains (s.replaced x) := by
  cases x with
  | none => exact retains_self s
  | some t => exact (retains_write s t).refreshSearch

lemma Coherent.retains_redrawn (h : Coherent c s) (x : Option Table.Model) : s.Retains (s.redrawn x) := by
  cases x with
  | none => exact retains_self s
  | some m =>
    rw [redrawn_some h.idle]
    split
    · exact (retains_self s).congr ..
    · have hw := retains_write { s with table := m } (m.toText s.text)
      exact ⟨hw.bus, hw.ring⟩

lemma retains_selectLine (s : Session) (node : Option Nat) (line : Nat) :
    s.Retains (s.selectLine node line).2 := by
  rw [selectLine]
  split
  · exact ⟨⟨[.lineSelected line], rfl, rfl⟩, .inl ⟨rfl, rfl⟩⟩
  · exact retains_self s

lemma retains_selectRow (s : Session) (row : Nat) : s.Retains (s.selectRow row).2 := by
  rw [selectRow]
  rcases s.table.select row with ⟨_ | line, m⟩
  · exact (retains_self s).congr ..
  · have hl := retains_selectLine { s with table := m } (s.analysis.trace.nodeOfLine? line) line
    exact ⟨hl.bus, hl.ring⟩

lemma Coherent.retains_after (h : Coherent c s) {r : Request} (hr : ¬ r.turns) : s.Retains (s.after r) := by
  cases r with
  | edit t =>
    rw [after_edit h.idle]
    split
    · exact (retains_self s).congr ..
    · exact (retains_adopt ..).refreshSearch
  | undo | redo =>
    rw [after_recalls h.idle rfl]
    exact retains_shown ..
  | format =>
    rw [after_format h.idle]
    exact retains_write ..
  | updateCell _ _ _ | addRow | deleteRow | applyTable =>
    rw [after_redraws h.idle rfl]
    exact h.retains_redrawn _
  | replaceCurrent _ | replaceAll _ =>
    rw [after_replaces h.idle rfl]
    exact retains_replaced ..
  | check => exact ⟨⟨[.checkCompleted _], rfl, rfl⟩, .inl ⟨rfl, rfl⟩⟩
  | selectRow row => exact retains_selectRow s row
  | find _ _ | findNext | findPrevious => exact (retains_self s).congr ..
  | load _ | pointerMove _ | pointerLeave | click _ => exact absurd rfl hr

lemma Retains.isSome_iff (h : s.Retains s') (hf : s.pointer.Fits s.clusters) :
    s'.pointer.expanded.isSome ↔
      ∃ e, s.pointer.expanded = some e ∧ ∃ k ∈ s'.clusters, k.key = e.key ∧ k.isOverlap := by
  rcases h.ring with ⟨hp, hc⟩ | hp
  · rw [hp, hc]
    exact hf.isSome_iff
  · rw [hp]
    exact Pointer.isSome_retain ..

lemma hushes_iff {r : Request} (hr : ¬ r.turns) :
    s.Hushes r ↔ ∃ e, s.pointer.expanded = some e ∧ ∀ k ∈ (s.after r).clusters, k.key = e.key → ¬ k.isOverlap := by
  cases r with
  | load _ | pointerMove _ | pointerLeave | click _ => exact absurd rfl hr
  | _ => rfl

lemma Coherent.ringStep_retains (h : Coherent c s) {r : Request} (hr : ¬ r.turns) :
    ∃ es, s.RingStep (s.after r) (s.Hushes r) es := by
  have hret := h.retains_after hr
  obtain ⟨es, hbus, hes⟩ := hret.bus
  refine ⟨es, hbus, ?_, fun hh => ⟨?_, hes⟩⟩
  · rw [hes, Option.getD_none, hret.isSome_iff h.ring, hushes_iff hr]
    cases s.pointer.expanded <;> simp
  · obtain ⟨e, he, -⟩ := (hushes_iff hr).mp hh
    rw [he]
    rfl

lemma ringStep_afterCollapse {x : Bool × Pointer}
    (hx : x.2.expanded.isSome = (s.pointer.expanded.isSome && !x.1)) :
    ∃ es, s.RingStep (s.afterCollapse x).2 False es := by
  obtain ⟨_ | _, p⟩ := x
  · exact ⟨[], rfl, by simpa [lastSaid, afterCollapse] using hx, False.elim⟩
  · exact ⟨[.clusterCollapsed], rfl, by simpa [lastSaid, Event.ring?, afterCollapse, publish] using hx, False.elim⟩

lemma Coherent.bus_click (h : Coherent c s) (spot : Point) :
    ∃ es, (s.click spot).2.bus = s.bus.publishAll es ∧
      lastSaid es = (s.pointer.click spot s.clusters).1.says? := by
  by_cases hn : ∃ n, (s.pointer.click spot s.clusters).1 = .selectNode n
  · obtain ⟨n, hn⟩ := hn
    obtain ⟨x, hx, hs⟩ := h.exists_picks (h.lt_of_click hn)
    rw [hn]
    exact ⟨[.lineSelected x.line], (click_selectNode hn hx hs).2, rfl⟩
  · exact ⟨_, (click_other (not_exists.mp hn)).2, Click.lastSaid_ringEvents _⟩

lemma Coherent.ringStep_click (h : Coherent c s) (spot : Point) :
    ∃ es, s.RingStep (s.after (.click spot)) (s.pointer.Slips spot s.clusters) es := by
  obtain ⟨es, hbus, hes⟩ := h.bus_click spot
  obtain ⟨hring, hslips⟩ := s.pointer.isSome_click spot s.clusters
  obtain ⟨b, hclick⟩ := s.click_eq spot
  have hp : (s.after (.click spot)).pointer = (s.pointer.click spot s.clusters).2 := congrArg Session.pointer hclick
  refine ⟨es, hbus, ?_, fun hh => ⟨?_, hes.trans (hslips hh)⟩⟩
  · rw [hp, hes]
    exact hring
  · obtain ⟨e, he, -⟩ := hh
    rw [he]
    rfl

lemma Coherent.ringStep_after (h : Coherent c s) (r : Request) : ∃ es, s.RingStep (s.after r) (s.Hushes r) es := by
  cases r with
  | load t =>
    rw [after_load h.idle]
    refine ⟨_, Bus.announce_eq .., ?_, fun hh => ⟨hh, lastSaid_changeEvents ..⟩⟩
    rw [lastSaid_changeEvents]
    exact iff_of_false Bool.false_ne_true fun hh => hh.2 hh.1
  | pointerMove spot => exact ringStep_afterCollapse (Pointer.isSome_move ..)
  | pointerLeave => exact ringStep_afterCollapse (by simp [Pointer.collapse])
  | click spot => exact h.ringStep_click spot
  | _ => exact h.ringStep_retains Bool.false_ne_true

structure Attended (c : SessionConfig) (f : Filter) (s : Session) (id : Nat) (es : List Event) : Prop where
  coherent : Coherent c s
  holds : s.bus.Holds id f es

variable {f : Filter} {id : Nat} {es : List Event}

lemma attended_new (c : SessionConfig) (t : Text) (f : Filter) :
    let x := (new c t).subscribe f
    Attended c f x.2 x.1 [] := by
  have hb : (new c t).bus.subscriptions = [] := by
    rw [new_eq]
    change ((Bus.new none).announce (.of t c.transform) .core).subscriptions = []
    rw [Bus.announce]
    split <;> rfl
  exact ⟨(Coherent.new c t).congr _ _ _ _, Bus.holds_subscribe hb f⟩

lemma Attended.after (h : Attended c f s id es) (r : Request) : ∃ es', Attended c f (s.after r) id es' := by
  obtain ⟨es', hstep⟩ := h.coherent.ringStep_after r
  exact ⟨_, h.coherent.after r, hstep.bus ▸ h.holds.publishAll es'⟩

lemma attended_run (c : SessionConfig) (t : Text) (f : Filter) (rs : List Request) :
    let x := (new c t).subscribe f
    ∃ es, Attended c f (x.2.run rs) x.1 es :=
  run_induction (P := fun s => ∃ es, Attended c f s _ es) ⟨_, attended_new c t f⟩ (fun _ r ⟨_, h⟩ => h.after r) rs

lemma Attended.tellsOpen_after (h : Attended c f s id es) (hf : f.accepts .clusterCollapsed) {r : Request}
    {hushed : Prop} {es' : List Event} (hstep : s.RingStep (s.after r) hushed es') :
    tellsOpen ((s.after r).bus.receivedBy id) = (lastSaid es').getD (tellsOpen (s.bus.receivedBy id)) := by
  have hb := h.holds.publishAll es'
  rw [← hstep.bus] at hb
  rw [hb.receivedBy_eq, h.holds.receivedBy_eq, tellsOpen_append, lastSaid_filter hf]

lemma Attended.tellsRing_after_iff (h : Attended c f s id es) (hf : f.accepts .clusterCollapsed)
    (ht : s.TellsRing id) (r : Request) : (s.after r).TellsRing id ↔ ¬ s.Hushes r := by
  obtain ⟨es', hstep⟩ := h.coherent.ringStep_after r
  have hring := hstep.ring
  rw [TellsRing, h.tellsOpen_after hf hstep, ht]
  by_cases hh : s.Hushes r
  · obtain ⟨hopen, hsilent⟩ := hstep.hush hh
    have hclosed : ¬ (s.after r).pointer.expanded.isSome := fun ho => (hring.mp ho).2 hh
    rw [hsilent, Option.getD_none, hopen]
    exact iff_of_false (fun he => hclosed he.symm) (not_not_intro hh)
  · rw [and_iff_left hh] at hring
    exact iff_of_true (Bool.eq_iff_iff.mpr hring.symm) hh

lemma Attended.tellsOpen_of_open (h : Attended c f s id es) (hf : f.accepts .clusterCollapsed)
    (ht : s.pointer.expanded.isSome → tellsOpen (s.bus.receivedBy id)) (r : Request)
    (ho : (s.after r).pointer.expanded.isSome) : tellsOpen ((s.after r).bus.receivedBy id) := by
  obtain ⟨es', hstep⟩ := h.coherent.ringStep_after r
  have hsaid := (hstep.ring.mp ho).1
  rw [h.tellsOpen_after hf hstep]
  cases hes : lastSaid es' with
  | none =>
    rw [hes] at hsaid
    exact ht hsaid
  | some b =>
    rw [hes] at hsaid
    exact hsaid

/-- Who listens from the start is told of every open ring, and is told right all along a run if and only if no
request of the run hushes up that it closed the ring. -/
theorem ring_told_iff (c : SessionConfig) (t : Text) {f : Filter} (hf : f.accepts .clusterCollapsed)
    (rs : List Request) :
    let x := (new c t).subscribe f
    ((x.2.run rs).pointer.expanded.isSome → tellsOpen ((x.2.run rs).bus.receivedBy x.1)) ∧
      ((∀ rs', rs' <+: rs → (x.2.run rs').TellsRing x.1) ↔
        ∀ rs' r, rs' ++ [r] <+: rs → ¬ (x.2.run rs').Hushes r) := by
  intro x
  have h := attended_run c t f
  have h₀ := attended_new c t f
  have hclosed : x.2.pointer.expanded = none := by
    change (new c t).pointer.expanded = none
    rw [new_eq]
    rfl
  refine ⟨?_, forall_prefix_iff (P := fun s => s.TellsRing x.1) ?_ (fun rs r ht => ?_) rs⟩
  · induction rs using List.reverseRecOn with
    | nil =>
      rw [run_nil, hclosed]
      exact fun ho => by cases ho
    | append_singleton rs r ih =>
      obtain ⟨es, hes⟩ := h rs
      rw [run_concat]
      exact hes.tellsOpen_of_open hf ih r
  · rw [TellsRing, h₀.holds.receivedBy_eq, hclosed]
    rfl
  · obtain ⟨es, hes⟩ := h rs
    rw [run_concat]
    exact hes.tellsRing_after_iff hf ht r

def overlap : Text := "G1 X1\nG1 X1\nG1 X50".toList

def openOverlap : Request := .click ⟨Float.ofNat 405, Float.ofNat 300⟩

theorem ring_told_of_overlap :
    (Filter.categories [.visualizer]).accepts .clusterCollapsed ∧
      let x := (new .default overlap).subscribe (.categories [.visualizer])
      let s := x.2.run [openOverlap]
      s.pointer.expanded.isSome ∧ tellsOpen (s.bus.receivedBy x.1) := by
  have hf : (Filter.categories [.visualizer]).accepts .clusterCollapsed := rfl
  have hopen : (((new .default overlap).subscribe (.categories [.visualizer])).2.run
      [openOverlap]).pointer.expanded.isSome := by
    decide +kernel
  exact ⟨hf, hopen, (ring_told_iff .default overlap hf [openOverlap]).1 hopen⟩

-- A load, an edit and a click on the other node close the ring, and the events still tell of it.
theorem ring_closed_untold :
    let x := (new .default overlap).subscribe .all
    ∀ r ∈ [.load [], .edit "G1 X1".toList, .click ⟨Float.ofNat 650, Float.ofNat 300⟩],
      let s := x.2.run [openOverlap, r]
      s.pointer.expanded = none ∧ tellsOpen (s.bus.receivedBy x.1) := by
  decide +kernel

end Session

end Toolpath.Editor
