import Toolpath.Proofs.Program.LastWriter
import Toolpath.Table.Row

/-!
What the rows of a program are, line by line: the places of its nodes, each with the feed that was written
last on the motions up to its line. The rows say all that the nodes say, and nothing else but the feed.
-/

namespace Toolpath.Table

open Program Text

def latestFeed (xs : List Text) : Option Float :=
  xs.reverse.findSome? fun x => if (motionOf? x).isSome then lastWord? 'F' x else none

def rowAt (ls : List Text) (i : Nat) (move : Motion × Nat) : Row :=
  let xs := ls.take (move.2 + 1)
  let p := place xs
  ⟨i, some move.2, move.1, some p.x, some p.y, some p.z, latestFeed xs⟩

lemma latestFeed_concat (xs : List Text) (x : Text) :
    latestFeed (xs ++ [x]) = (if (motionOf? x).isSome then lastWord? 'F' x else none).or (latestFeed xs) := by
  rw [latestFeed, List.reverse_concat, List.findSome?_cons]
  split <;> simp_all [latestFeed]

lemma motionOf?_of_isInert {x : Text} (h : isInert x) : motionOf? x = none := by
  simp [motionOf?, mnemonic?_of_isInert h]

lemma feedAfter_read (feed : Option Float) (l : Nat) (x : Text) :
    feedAfter feed ⟨l, x, .read x⟩ = (if (motionOf? x).isSome then lastWord? 'F' x else none).or feed := by
  rw [feedAfter, Statement.kind_mk, motion?_read]
  cases hm : motionOf? x with
  | none => rfl
  | some m =>
    have hx : (mnemonic? x).any isCommand := by
      rw [motionOf?_eq_some.mp hm]
      cases m <;> rfl
    have hf : (Line.read x).param 'F' = lastWord? 'F' x := param_read hx (by decide)
    simp [hf]

lemma rowsFrom_cons (t : Tracker) (feed : Option Float) (x : Text) (l : Nat) (ls : List (Text × Nat)) :
    let s : Statement := ⟨l, x, .read x⟩
    rowsFrom t feed (Statement.ofLines ((x, l) :: ls)) =
      ((t.step s).1.map fun n => (⟨n.index, some n.line, n.motion, some n.position.x, some n.position.y,
        some n.position.z, feedAfter feed s⟩ : Row)).toList ++
      rowsFrom (t.step s).2 (feedAfter feed s) (Statement.ofLines ls) := by
  intro s
  cases hi : isInert x with
  | false => rw [ofLines_cons hi, rowsFrom]
  | true =>
    have hstep : t.step s = (none, t) := step_of_not_moves t l fun hx => by
      rw [not_isInert_of_moves hx] at hi
      cases hi
    have hfeed : feedAfter feed s = feed := by
      rw [feedAfter_read, motionOf?_of_isInert hi]
      rfl
    rw [ofLines_cons_inert hi, hstep, hfeed]
    rfl

theorem rowsFrom_ofLines {t : Tracker} {xs : List Text} (ht : t.position = place xs) (ys : List Text) :
    rowsFrom t (latestFeed xs) (Statement.ofLines (ys.zipIdx xs.length)) =
      (movesOf (ys.zipIdx xs.length)).mapIdx fun i => rowAt (xs ++ ys) (t.count + i) := by
  induction ys generalizing t xs with
  | nil => rfl
  | cons y ys ih =>
    have happ : xs ++ y :: ys = xs ++ [y] ++ ys := by simp
    have hlen : xs.length + 1 = (xs ++ [y]).length := by simp
    have hfeed : feedAfter (latestFeed xs) ⟨xs.length, y, .read y⟩ = latestFeed (xs ++ [y]) := by
      rw [feedAfter_read, latestFeed_concat]
    rw [List.zipIdx_cons, rowsFrom_cons, hfeed]
    by_cases hy : moves y
    · obtain ⟨m, hm, hstep⟩ := step_of_moves ht xs.length hy
      have hfirst : rowAt (xs ++ [y] ++ ys) t.count (m, xs.length) =
          (let p := place (xs ++ [y])
          ⟨t.count, some xs.length, m, some p.x, some p.y, some p.z, latestFeed (xs ++ [y])⟩) := by
        rw [rowAt, hlen, List.take_left]
      have hp : (⟨place (xs ++ [y]), t.count + 1⟩ : Tracker).position = place (xs ++ [y]) := rfl
      have hrest := ih hp
      rw [movesOf_cons hy hm, hstep, List.mapIdx_cons, happ, Nat.add_zero t.count, hfirst, hlen]
      simp only [hrest, Nat.add_assoc, Nat.add_comm 1]
      rfl
    · have hp : t.position = place (xs ++ [y]) := by rw [place_concat, if_neg hy, ht]
      rw [movesOf_cons_other hy, step_of_not_moves t _ hy, happ, hlen, ← ih hp]
      rfl

lemma toRows_eq (t : Text) : toRows t = (movesOf (lines t).zipIdx).mapIdx (rowAt (lines t)) := by
  have hp : Tracker.start.position = place [] := rfl
  have h := rowsFrom_ofLines hp (lines t)
  simpa [toRows, statements, Tracker.start, latestFeed] using h

def Row.node (r : Row) : Node :=
  let coordinate (v : Option Float) := v.getD (Float.ofNat 0)
  ⟨r.index, r.line.getD 0, ⟨coordinate r.x, coordinate r.y, coordinate r.z⟩, r.command⟩

lemma nodes_trace_eq_map (t : Text) : (trace t).nodes = (toRows t).map Row.node := by
  rw [nodes_trace, toRows_eq]
  exact List.ext_getElem (by simp) fun i _ _ => by simp [rowAt, nodeAt, Row.node]

lemma trace_eq_of_rows {t u : Text} (h : toRows t = toRows u)
    (hr : (trace t).relativeLine = (trace u).relativeLine) : trace t = trace u :=
  trace_congr (by rw [nodes_trace_eq_map, nodes_trace_eq_map, h]) hr

def SetsFeed (x : Text) (v : Float) : Prop := (motionOf? x).isSome ∧ lastWord? 'F' x = some v

/-- The row shows the node numbered `i` of a text. Its feed was set on the last motion that sets one, up to the
line of the node; that motion may have no coordinates. -/
structure Row.Shows (r : Row) (t : Text) (i : Nat) (n : Node) : Prop where
  index : r.index = i
  line : r.line = some n.line
  command : r.command = n.motion
  x : r.x = some n.position.x
  y : r.y = some n.position.y
  z : r.z = some n.position.z
  feed : ∀ v, r.feed = some v ↔ ∃ l ≤ n.line, ∃ x, (lines t)[l]? = some x ∧ SetsFeed x v ∧
    ∀ l' ≤ n.line, l < l' → ∀ x' v', (lines t)[l']? = some x' → ¬ SetsFeed x' v'

lemma setsFeed_iff {x : Text} {v : Float} :
    (if (motionOf? x).isSome then lastWord? 'F' x else none) = some v ↔ SetsFeed x v := by
  rw [SetsFeed]
  split <;> simp_all

lemma latestFeed_eq_some_iff {xs : List Text} {v : Float} :
    latestFeed xs = some v ↔ ∃ (l : Nat) (x : Text), xs[l]? = some x ∧ SetsFeed x v ∧
      ∀ (l' : Nat) (x' : Text) v', l < l' → xs[l']? = some x' → ¬ SetsFeed x' v' := by
  rw [latestFeed, List.findSome?_eq_some_iff]
  simp only [setsFeed_iff]
  constructor
  · rintro ⟨later, x, earlier, hxs, hx, hlater⟩
    have hsplit : xs = earlier.reverse ++ x :: later.reverse := by simpa using congrArg List.reverse hxs
    refine ⟨earlier.length, x, by simp [hsplit], hx, fun l' x' v' hl hx' hset => ?_⟩
    obtain ⟨k, rfl⟩ := Nat.exists_eq_add_of_lt hl
    have hx' : later.reverse[k]? = some x' := by
      rw [hsplit, List.getElem?_append_right (by simp; omega)] at hx'
      simpa [Nat.add_assoc] using hx'
    have hnone := hlater x' (List.mem_reverse.mp (List.mem_of_getElem? hx'))
    rw [setsFeed_iff.mpr hset] at hnone
    cases hnone
  · rintro ⟨l, x, hl, hx, hlater⟩
    obtain ⟨hlt, rfl⟩ := List.getElem?_eq_some_iff.mp hl
    have hsplit : xs.take l ++ xs[l] :: xs.drop (l + 1) = xs := by
      rw [← List.drop_eq_getElem_cons hlt, List.take_append_drop]
    refine ⟨(xs.drop (l + 1)).reverse, xs[l], (xs.take l).reverse, ?_, hx, fun y hy => ?_⟩
    · conv_lhs => rw [← hsplit]
      simp
    · obtain ⟨k, hk⟩ := List.mem_iff_getElem?.mp (List.mem_reverse.mp hy)
      rw [List.getElem?_drop] at hk
      refine Option.eq_none_iff_forall_ne_some.mpr fun v' hv' => ?_
      exact hlater _ y v' (by omega) hk (setsFeed_iff.mp hv')

/-- The rows of a program are its nodes, one by one, each with the feed that applies there. -/
theorem rows_show_nodes (t : Text) :
    (toRows t).length = (trace t).nodes.length ∧
      ∀ i (r : Row), (toRows t)[i]? = some r → ∃ n, (trace t).nodes[i]? = some n ∧ r.Shows t i n := by
  refine ⟨by rw [nodes_trace_eq_map, List.length_map], fun i r hr => ?_⟩
  rw [toRows_eq, List.getElem?_mapIdx, Option.map_eq_some_iff] at hr
  obtain ⟨⟨m, l⟩, hm, rfl⟩ := hr
  refine ⟨nodeAt (lines t) i (m, l), ?_, rfl, rfl, rfl, rfl, rfl, rfl, fun v => ?_⟩
  · rw [nodes_trace, List.getElem?_mapIdx, hm]
    rfl
  have htake : ∀ (k : Nat) x, ((lines t).take (l + 1))[k]? = some x ↔ k ≤ l ∧ (lines t)[k]? = some x := by
    intro k x
    rw [List.getElem?_take]
    split
    · rename_i hk
      simp [Nat.le_of_lt_succ hk]
    · rename_i hk
      simp [show ¬ k ≤ l by omega]
  have hfeed : (rowAt (lines t) i (m, l)).feed = latestFeed ((lines t).take (l + 1)) := rfl
  simp only [hfeed, latestFeed_eq_some_iff, htake, nodeAt]
  constructor
  · rintro ⟨k, x, ⟨hk, hx⟩, hset, hlater⟩
    exact ⟨k, hk, x, hx, hset, fun k' hk' hlt x' v' hx' => hlater k' x' v' hlt ⟨hk', hx'⟩⟩
  · rintro ⟨k, hk, x, hx, hset, hlater⟩
    exact ⟨k, x, ⟨hk, hx⟩, hset, fun k' x' v' hlt hx' => hlater k' hx'.1 hlt x' v' hx'.2⟩

example : (toRows "G0 X1\nG1 F300\nM3 F9\ng1 x2 f1 f400\nG1 Z1".toList).map (·.feed) =
    [none, some (Float.ofNat 400), some (Float.ofNat 400)] := by
  decide +kernel

end Toolpath.Table
