import Mathlib.Data.List.DropRight
import Mathlib.Data.List.Induction
import Mathlib.Tactic.Lemma
import Toolpath.Editor.Event

/-!
What a bus hands out, told from the requests alone. A subscription lasts from the request that opens it to
the one that ends it, and its holder gets what is published in between and passes its filter. The kept
events are the last ones since they were cleared.
-/

namespace Toolpath.Editor.Bus

inductive Request
  | subscribe (f : Filter)
  | unsubscribe (id : Nat)
  | publish (e : Event)
  | clear
  deriving DecidableEq, Repr

def Request.filter? : Request → Option Filter
  | subscribe f => some f
  | unsubscribe _ | publish _ | clear => none

def Request.event? : Request → Option Event
  | publish e => some e
  | subscribe _ | unsubscribe _ | clear => none

def published (rs : List Request) : List Event := rs.filterMap Request.event?

def opened (rs : List Request) : Nat := rs.countP (·.filter?.isSome)

def since : Nat → List Request → Option (Filter × List Request)
  | _, [] => none
  | id, r :: rs =>
    match r.filter?, id with
    | none, id => since id rs
    | some f, 0 => some (f, rs)
    | some _, id + 1 => since id rs

def live? (rs : List Request) (id : Nat) : Option Filter :=
  (since id rs).bind fun (f, rs) => if .unsubscribe id ∈ rs then none else some f

def untilEnd (id : Nat) (rs : List Request) : List Request := rs.takeWhile (· ≠ .unsubscribe id)

/-- What is published during a subscription and passes its filter. -/
def heard (rs : List Request) (id : Nat) : List Event :=
  match since id rs with
  | some (f, rs) => (published (untilEnd id rs)).filter f.accepts
  | none => []

def lastSinceClear (capacity : Option Nat) (rs : List Request) : List Event :=
  match capacity with
  | some n => (published (rs.rtakeWhile (· ≠ .clear))).rtake n
  | none => []

def after (b : Bus) : Request → Bus
  | .subscribe f => (b.subscribe f).2
  | .unsubscribe id => (b.unsubscribe id).2
  | .publish e => (b.publish e).2
  | .clear => b.clearHistory

def serveAll (b : Bus) (rs : List Request) : List (Nat × Event) × Bus :=
  rs.foldl (fun (out, b) r => (out ++ (b.after r).drain.1, (b.after r).drain.2)) ([], b)

def log (out : List (Nat × Event)) (id : Nat) : List Event := (out.filter (·.1 = id)).map (·.2)

def held (live : Nat → Option Filter) (n : Nat) : List Subscription :=
  (List.range n).filterMap fun id => (live id).map (⟨id, ·, []⟩)

structure Serves (capacity : Option Nat) (rs : List Request) (out : List (Nat × Event)) (b : Bus) : Prop where
  subscriptions : b.subscriptions = held (live? rs) (opened rs)
  nextId : b.nextId = opened rs
  capacity_eq : b.capacity = capacity
  kept : b.kept = lastSinceClear capacity rs
  log_eq : ∀ id, log out id = heard rs id

variable {rs : List Request} {id : Nat} {b : Bus} {capacity : Option Nat} {out : List (Nat × Event)}

lemma published_append (rs rs' : List Request) : published (rs ++ rs') = published rs ++ published rs' :=
  List.filterMap_append

lemma published_singleton (r : Request) : published [r] = r.event?.toList := by
  cases r <;> rfl

lemma opened_cons (r : Request) (rs : List Request) :
    opened (r :: rs) = opened rs + if r.filter?.isSome then 1 else 0 := List.countP_cons

lemma opened_concat (rs : List Request) (r : Request) :
    opened (rs ++ [r]) = opened rs + if r.filter?.isSome then 1 else 0 := by
  rw [opened, List.countP_append, List.countP_singleton, opened]

lemma since_concat (id : Nat) (rs : List Request) (r : Request) :
    since id (rs ++ [r]) = ((since id rs).map fun (f, rs) => (f, rs ++ [r])).or
      (if id = opened rs then r.filter?.map (·, []) else none) := by
  induction rs generalizing id with
  | nil => cases hr : r.filter? <;> cases id <;> simp [since, opened, hr]
  | cons q rs ih =>
    cases hq : q.filter? with
    | none => simp [since, opened_cons, hq, ih]
    | some f => cases id <;> simp [since, opened_cons, hq, ih]

lemma since_eq_none_iff : since id rs = none ↔ opened rs ≤ id := by
  induction rs generalizing id with
  | nil => simp [since, opened]
  | cons q rs ih =>
    cases hq : q.filter? with
    | none => simp [since, opened_cons, hq, ih]
    | some f => cases id <;> simp [since, opened_cons, hq, ih]

lemma live?_eq_none (h : opened rs ≤ id) : live? rs id = none := by
  simp [live?, since_eq_none_iff.mpr h]

lemma live?_concat (rs : List Request) (r : Request) (id : Nat) :
    live? (rs ++ [r]) id = match r with
      | .subscribe f => if id = opened rs then some f else live? rs id
      | .unsubscribe i => if id = i then none else live? rs id
      | .publish _ | .clear => live? rs id := by
  rw [live?, since_concat, live?]
  cases h : since id rs with
  | none =>
    cases r with
    | subscribe f => by_cases hid : id = opened rs <;> simp [Request.filter?, hid]
    | unsubscribe _ | publish _ | clear => simp [Request.filter?]
  | some x =>
    have hne : id ≠ opened rs := fun he => by
      rw [since_eq_none_iff.mpr he.ge] at h
      cases h
    cases r with
    | subscribe f => simp [hne]
    | unsubscribe i => by_cases hi : id = i <;> simp [hi]
    | publish _ | clear => simp

lemma untilEnd_concat_of_mem (h : .unsubscribe id ∈ rs) (r : Request) : untilEnd id (rs ++ [r]) = untilEnd id rs := by
  have hne : (rs.takeWhile (· ≠ .unsubscribe id)).length ≠ rs.length := fun hlen => by
    have hall := List.takeWhile_eq_self_iff.mp ((List.takeWhile_prefix _).eq_of_length hlen) _ h
    simp at hall
  rw [untilEnd, List.takeWhile_append, if_neg hne, untilEnd]

lemma untilEnd_eq_self (h : .unsubscribe id ∉ rs) : untilEnd id rs = rs :=
  List.takeWhile_eq_self_iff.mpr fun _ hq => decide_eq_true fun he => h (he ▸ hq)

lemma published_untilEnd_concat (h : .unsubscribe id ∉ rs) (r : Request) :
    published (untilEnd id (rs ++ [r])) = published rs ++ r.event?.toList := by
  have hall : ∀ q ∈ rs, decide (q ≠ .unsubscribe id) := fun q hq => decide_eq_true fun he => h (he ▸ hq)
  rw [untilEnd, List.takeWhile_append_of_pos hall, published_append]
  cases r with
  | unsubscribe i => by_cases hi : i = id <;> simp [published, Request.event?, hi]
  | subscribe _ | publish _ | clear => simp [published, Request.event?]

lemma heard_concat (rs : List Request) (r : Request) (id : Nat) :
    heard (rs ++ [r]) id = heard rs id ++ r.event?.toList.filter fun e => (live? rs id).any (·.accepts e) := by
  rw [heard, since_concat, heard, live?]
  rcases h : since id rs with _ | ⟨f, rs'⟩
  · cases r with
    | subscribe f =>
      by_cases hid : id = opened rs <;> simp [Request.filter?, Request.event?, published, untilEnd, hid]
    | unsubscribe _ | publish _ | clear => simp [Request.filter?, Request.event?]
  · by_cases hend : .unsubscribe id ∈ rs'
    · simp [untilEnd_concat_of_mem hend, hend]
    · simp [published_untilEnd_concat hend, untilEnd_eq_self hend, hend]

lemma log_append (out out' : List (Nat × Event)) (id : Nat) : log (out ++ out') id = log out id ++ log out' id := by
  simp [log]

lemma held_succ (live : Nat → Option Filter) (n : Nat) :
    held live (n + 1) = held live n ++ ((live n).map (⟨n, ·, []⟩)).toList := by
  cases h : live n <;> simp [held, List.range_succ, h]

lemma log_deliver (live : Nat → Option Filter) (e : Event) (n id : Nat) :
    log (((held live n).map (deliver e)).flatMap fun s => s.received.map (s.id, ·)) id =
      if id < n ∧ (live id).any (·.accepts e) then [e] else [] := by
  induction n with
  | zero => simp [held, log]
  | succ n ih =>
    rw [held_succ, List.map_append, List.flatMap_append, log_append, ih]
    by_cases hid : id = n
    · subst hid
      cases live id with
      | none => simp [log]
      | some f => by_cases hf : f.accepts e <;> simp [log, deliver, hf]
    · have hlt : id < n + 1 ↔ id < n := by omega
      cases live n with
      | none => simp [log, hlt]
      | some f => by_cases hf : f.accepts e <;> simp [log, deliver, hf, hlt, Ne.symm hid]

lemma held_congr {live live' : Nat → Option Filter} {n : Nat} (h : ∀ id < n, live id = live' id) :
    held live n = held live' n :=
  List.filterMap_congr fun id hid => by rw [h id (List.mem_range.mp hid)]

lemma filter_held (live : Nat → Option Filter) (i n : Nat) :
    (held live n).filter (·.id ≠ i) = held (fun id => if id = i then none else live id) n := by
  induction n with
  | zero => rfl
  | succ n ih =>
    rw [held_succ, held_succ, List.filter_append, ih]
    by_cases hn : n = i <;> cases live n <;> simp [hn]

lemma any_held (live : Nat → Option Filter) (i n : Nat) :
    (held live n).any (·.id = i) = decide (i < n ∧ (live i).isSome) := by
  induction n with
  | zero => simp [held]
  | succ n ih =>
    rw [held_succ, List.any_append, ih]
    by_cases hi : i = n
    · subst hi
      cases live i <;> simp
    · have hlt : i < n + 1 ↔ i < n := by omega
      cases live n <;> simp [hlt, Ne.symm hi]

lemma map_held_deliver (live : Nat → Option Filter) (e : Event) (n : Nat) :
    ((held live n).map (deliver e)).map (fun s => { s with received := [] }) = held live n := by
  induction n with
  | zero => rfl
  | succ n ih =>
    rw [held_succ, List.map_append, List.map_append, ih]
    cases live n with
    | none => rfl
    | some f => by_cases hf : f.accepts e <;> simp [deliver, hf]

lemma drain_held {live : Nat → Option Filter} {n : Nat} (h : b.subscriptions = held live n) : b.drain = ([], b) := by
  have hempty : ∀ s ∈ b.subscriptions, s.received = [] := by
    intro s hs
    rw [h, held, List.mem_filterMap] at hs
    obtain ⟨id, -, hid⟩ := hs
    obtain ⟨f, -, rfl⟩ := Option.map_eq_some_iff.mp hid
    rfl
  have hout : (b.subscriptions.flatMap fun s => s.received.map (s.id, ·)) = [] :=
    List.flatMap_eq_nil_iff.mpr fun s hs => by rw [hempty s hs, List.map_nil]
  have hsame : b.subscriptions.map (fun s => { s with received := [] }) = b.subscriptions := by
    conv_rhs => rw [← List.map_id b.subscriptions]
    exact List.map_congr_left fun s hs => by rw [← hempty s hs]; rfl
  rw [drain, hout, hsame]

lemma keep_rtake (n : Nat) (es : List Event) (e : Event) :
    keep (some n) (es.rtake n) e = (es ++ [e]).rtake n := by
  have ha : es.rtake n ++ [e] = (es ++ [e]).drop (es.length - n) := by
    rw [List.drop_append_of_le_length (Nat.sub_le ..), List.rtake]
  have hl : (es.rtake n).length = es.length - (es.length - n) := List.length_drop
  change (es.rtake n ++ [e]).drop ((es.rtake n).length + 1 - n) = _
  rw [ha, hl, List.drop_drop, List.rtake, List.length_append, List.length_singleton]
  congr 1
  omega

lemma lastSinceClear_concat (capacity : Option Nat) (rs : List Request) (r : Request) :
    lastSinceClear capacity (rs ++ [r]) = match r with
      | .publish e => keep capacity (lastSinceClear capacity rs) e
      | .clear => []
      | .subscribe _ | .unsubscribe _ => lastSinceClear capacity rs := by
  cases capacity with
  | none => cases r <;> rfl
  | some n =>
    cases r with
    | publish e => simp [lastSinceClear, published_append, published_singleton, Request.event?, keep_rtake]
    | clear => simp [lastSinceClear, published]
    | subscribe _ | unsubscribe _ => simp [lastSinceClear, published_append, published_singleton, Request.event?]

lemma serveAll_concat (b : Bus) (rs : List Request) (r : Request) :
    b.serveAll (rs ++ [r]) =
      ((b.serveAll rs).1 ++ ((b.serveAll rs).2.after r).drain.1, ((b.serveAll rs).2.after r).drain.2) := by
  simp [serveAll]

lemma Serves.quiet (h : Serves capacity rs out b) {r : Request} (hr : r.event? = none) {b' : Bus}
    (hs : b'.subscriptions = held (live? (rs ++ [r])) (opened (rs ++ [r])))
    (hn : b'.nextId = opened (rs ++ [r])) (hc : b'.capacity = b.capacity)
    (hk : b'.kept = lastSinceClear capacity (rs ++ [r])) :
    Serves capacity (rs ++ [r]) (out ++ b'.drain.1) b'.drain.2 := by
  rw [drain_held hs, List.append_nil]
  refine ⟨hs, hn, hc.trans h.capacity_eq, hk, fun id => ?_⟩
  rw [h.log_eq, heard_concat, hr]
  simp

lemma Serves.subscribe (h : Serves capacity rs out b) (f : Filter) :
    (b.subscribe f).2.subscriptions = held (live? (rs ++ [.subscribe f])) (opened (rs ++ [.subscribe f])) := by
  have hold : held (live? (rs ++ [.subscribe f])) (opened rs) = held (live? rs) (opened rs) :=
    held_congr fun id hid => by
      rw [live?_concat]
      exact if_neg hid.ne
  have hnew : live? (rs ++ [.subscribe f]) (opened rs) = some f := by
    rw [live?_concat]
    exact if_pos rfl
  have hopened : opened (rs ++ [.subscribe f]) = opened rs + 1 := opened_concat ..
  rw [hopened, held_succ, hold, hnew, ← h.subscriptions, ← h.nextId]
  rfl

lemma Serves.unsubscribe (h : Serves capacity rs out b) (i : Nat) :
    (b.unsubscribe i).2.subscriptions =
      held (live? (rs ++ [.unsubscribe i])) (opened (rs ++ [.unsubscribe i])) := by
  have hopened : opened (rs ++ [.unsubscribe i]) = opened rs := opened_concat ..
  rw [hopened, Bus.unsubscribe, h.subscriptions, filter_held]
  exact held_congr fun id _ => (live?_concat rs (.unsubscribe i) id).symm

lemma Serves.publish (h : Serves capacity rs out b) (e : Event) :
    Serves capacity (rs ++ [.publish e]) (out ++ (b.publish e).2.drain.1) (b.publish e).2.drain.2 := by
  have hopened : opened (rs ++ [.publish e]) = opened rs := opened_concat ..
  have hlive : live? (rs ++ [.publish e]) = live? rs := funext fun id => live?_concat rs (.publish e) id
  refine ⟨?_, ?_, h.capacity_eq, ?_, fun id => ?_⟩
  · rw [hopened, hlive, ← map_held_deliver _ e, ← h.subscriptions]
    rfl
  · exact h.nextId.trans hopened.symm
  · rw [lastSinceClear_concat, ← h.kept, ← h.capacity_eq]
    rfl
  · have hout : (b.publish e).2.drain.1 = ((held (live? rs) (opened rs)).map (deliver e)).flatMap fun s =>
        s.received.map (s.id, ·) := by
      rw [← h.subscriptions]
      rfl
    rw [log_append, h.log_eq, heard_concat, hout, log_deliver]
    by_cases hid : id < opened rs
    · simp [hid, Request.event?, List.filter_singleton]
    · simp [hid, Request.event?, live?_eq_none (Nat.le_of_not_lt hid)]

lemma Serves.concat (h : Serves capacity rs out b) (r : Request) :
    Serves capacity (rs ++ [r]) (out ++ (b.after r).drain.1) (b.after r).drain.2 := by
  have hkept := lastSinceClear_concat capacity rs r
  have hopened := opened_concat rs r
  cases r with
  | subscribe f => exact h.quiet rfl (h.subscribe f) (by rw [hopened, ← h.nextId]; rfl) rfl (h.kept.trans hkept.symm)
  | unsubscribe i =>
    exact h.quiet rfl (h.unsubscribe i) (by rw [hopened, ← h.nextId]; rfl) rfl (h.kept.trans hkept.symm)
  | publish e => exact h.publish e
  | clear =>
    have hlive : live? (rs ++ [.clear]) = live? rs := funext fun id => live?_concat rs .clear id
    refine h.quiet rfl ?_ ?_ rfl hkept.symm
    · rw [hopened, hlive]
      exact h.subscriptions
    · rw [hopened]
      exact h.nextId

lemma serves (capacity : Option Nat) (rs : List Request) :
    Serves capacity rs ((new capacity).serveAll rs).1 ((new capacity).serveAll rs).2 := by
  induction rs using List.reverseRecOn with
  | nil =>
    refine ⟨rfl, rfl, rfl, ?_, fun _ => rfl⟩
    cases capacity <;> simp [serveAll, new, lastSinceClear, published]
  | append_singleton rs r ih =>
    rw [serveAll_concat]
    exact ih.concat r

lemma Serves.count (h : Serves capacity rs out b) (e : Event) :
    (b.publish e).1 = (List.range (opened rs)).countP fun id => (live? rs id).any (·.accepts e) := by
  change b.subscriptions.countP (·.filter.accepts e) = _
  rw [h.subscriptions, held, List.countP_filterMap]
  congr 1
  funext id
  cases live? rs id <;> rfl

lemma Serves.unsubscribe_fst (h : Serves capacity rs out b) (id : Nat) :
    (b.unsubscribe id).1 = (live? rs id).isSome := by
  rw [Bus.unsubscribe, h.subscriptions, any_held]
  by_cases hid : id < opened rs
  · simp [hid]
  · simp [hid, live?_eq_none (Nat.le_of_not_lt hid)]

lemma Serves.unsubscribe_ended (h : Serves capacity rs out b) (hid : live? rs id = none) :
    b.unsubscribe id = (false, b) := by
  have hfst : (b.unsubscribe id).1 = false := by rw [h.unsubscribe_fst, hid]; rfl
  have hall : b.subscriptions.filter (·.id ≠ id) = b.subscriptions := by
    rw [h.subscriptions, filter_held]
    refine held_congr fun i _ => ?_
    split
    · rename_i hi
      rw [hi, hid]
    · rfl
  refine Prod.ext hfst ?_
  rw [Bus.unsubscribe, hall]

lemma live?_ended (hid : id < opened rs) (rs' : List Request) : live? (rs ++ .unsubscribe id :: rs') id = none := by
  induction rs' using List.reverseRecOn with
  | nil => simp [live?_concat]
  | append_singleton rs' r ih =>
    rw [← List.cons_append, ← List.append_assoc, live?_concat, ih]
    cases r with
    | subscribe f =>
      have hle : opened rs ≤ opened (rs ++ .unsubscribe id :: rs') := List.Sublist.countP_le (List.sublist_append_left ..)
      exact if_neg (Nat.lt_of_lt_of_le hid hle).ne
    | unsubscribe i => exact ite_self none
    | publish _ | clear => rfl

/-- Whatever is asked of a bus, each subscriber gets what is published from its subscription to its end and
passes its filter, each event once and in order; a publication tells how many get it; a subscription ends
once; and the events that are kept are the last ones since they were cleared. -/
theorem hands_out (capacity : Option Nat) (rs : List Request) :
    let x := (new capacity).serveAll rs
    (∀ id, log x.1 id = heard rs id) ∧
    (∀ e, (x.2.publish e).1 = (List.range (opened rs)).countP fun id => (live? rs id).any (·.accepts e)) ∧
    (∀ f, (x.2.subscribe f).1 = opened rs) ∧
    (∀ id, (x.2.unsubscribe id).1 = (live? rs id).isSome) ∧
    (∀ id < opened rs, ∀ rs', let b := ((new capacity).serveAll (rs ++ .unsubscribe id :: rs')).2
      b.unsubscribe id = (false, b)) ∧
    x.2.history = lastSinceClear capacity rs := by
  intro x
  have h := serves capacity rs
  refine ⟨h.log_eq, h.count, fun f => h.nextId, fun id => h.unsubscribe_fst id, fun id hid rs' => ?_, ?_⟩
  · exact (serves capacity _).unsubscribe_ended (live?_ended hid rs')
  · rw [history, h.capacity_eq, h.kept]
    cases capacity <;> rfl

example :
    let x := (new (some 2)).serveAll [.subscribe (.categories [.visualizer]), .publish (.lineSelected 3),
      .publish .clusterCollapsed, .unsubscribe 0, .publish (.relativeModeAborted 7)]
    x.1 = [(0, .clusterCollapsed)] ∧ x.2.history = [.clusterCollapsed, .relativeModeAborted 7] := by
  decide

end Toolpath.Editor.Bus
