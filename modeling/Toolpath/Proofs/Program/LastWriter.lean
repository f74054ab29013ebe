import Mathlib.Data.Bool.AllAny
import Mathlib.Data.List.TakeDrop
import Mathlib.Data.List.TakeWhile
import Mathlib.Tactic.Lemma
import Toolpath.Proofs.Program.Walk
import Toolpath.Proofs.Text.Pieces

/-!
What a program means, line by line. A node stands at the place that was written last, axis by axis, on the
moves up to its own line; the tracker is the running form of that.
-/

namespace Toolpath.Program

open Text

def codeWords (x : Text) : List Text := words (x.takeWhile (· ≠ ';'))

def mnemonic? (x : Text) : Option Text := (codeWords x).head?.map upper

def beginsWith (axis : Char) (w : Text) : Bool := w.head?.map upperAscii = some axis

def lastWord? (axis : Char) (x : Text) : Option Float :=
  ((codeWords x).tail.reverse.find? (beginsWith axis)).map fun w => Number.parseNumber w.tail

def moves (x : Text) : Bool :=
  !isInert x && (mnemonic? x = some ['G', '0'] || mnemonic? x = some ['G', '1']) &&
    (codeWords x).tail.any fun w => ['X', 'Y', 'Z'].any (beginsWith · w)

def latest (axis : Char) (xs : List Text) : Float :=
  (xs.reverse.findSome? fun x => if moves x then lastWord? axis x else none).getD (Float.ofNat 0)

def place (xs : List Text) : Position := ⟨latest 'X' xs, latest 'Y' xs, latest 'Z' xs⟩

/-- A trace says what the lines of a text mean. -/
structure Trace.Means (r : Trace) (t : Text) : Prop where
  increasing : r.nodes.Pairwise (·.line < ·.line)
  line_iff : ∀ l, (∃ n ∈ r.nodes, n.line = l) ↔ ∃ x, (lines t)[l]? = some x ∧ moves x
  index_eq : ∀ i (n : Node), r.nodes[i]? = some n → n.index = i
  motion_eq : ∀ n ∈ r.nodes, ∃ x, (lines t)[n.line]? = some x ∧ mnemonic? x = some n.motion.mnemonic
  position_eq : ∀ n ∈ r.nodes, n.position = place ((lines t).take (n.line + 1))
  nodeOfLine?_eq : ∀ l i, r.nodeOfLine? l = some i ↔ ∃ n, r.nodes[i]? = some n ∧ n.line = l
  inverse : ∀ l i, r.nodeOfLine? l = some i ↔ r.lineOfNode? i = some l
  relative_eq : r.relativeLine = (lines t).findIdx? fun x => mnemonic? x = some ['G', '9', '1']

lemma takeWhile_blanks {b : Text} (hb : ∀ c ∈ b, isBlank c) : b.takeWhile (· ≠ ';') = b := by
  rw [List.takeWhile_eq_self_iff]
  intro c hc
  have := hb c hc
  simp only [ne_eq, decide_eq_true_eq]
  rintro rfl
  revert this
  decide

lemma words_takeWhile_trimStart (x : Text) :
    words ((trimStart x).takeWhile (· ≠ ';')) = words (x.takeWhile (· ≠ ';')) := by
  induction x with
  | nil => rfl
  | cons c x ih =>
    by_cases hc : isBlank c
    · have hs : c ≠ ';' := by
        rintro rfl
        revert hc
        decide
      simpa [trimStart, hc, hs] using ih
    · simp [trimStart, hc]

lemma words_takeWhile_trimEnd (x : Text) :
    words ((trimEnd x).takeWhile (· ≠ ';')) = words (x.takeWhile (· ≠ ';')) := by
  obtain ⟨b, hb, hx⟩ := trimEnd_append x
  conv_rhs => rw [← hx]
  rw [List.takeWhile_append]
  split
  · rename_i hlen
    have hall : (trimEnd x).takeWhile (· ≠ ';') = trimEnd x :=
      (List.takeWhile_prefix _).eq_of_length hlen
    rw [hall, takeWhile_blanks hb, words_append_blanks hb]
  · rfl

lemma words_splitComment (x : Text) : words (splitComment (trim x)).1 = codeWords x := by
  have hs : (splitComment (trim x)).1 = trim ((trim x).takeWhile (· ≠ ';')) := by
    rw [splitComment, List.span_eq_takeWhile_dropWhile]
    split <;> simp_all
  rw [hs, words_trim, trim, words_takeWhile_trimEnd, words_takeWhile_trimStart, codeWords]

lemma codeWords_of_isInert {x : Text} (h : isInert x) : codeWords x = [] := by
  rw [codeWords, ← words_takeWhile_trimStart, ← words_takeWhile_trimEnd, ← trim]
  rw [isInert] at h
  cases hx : trim x with
  | nil => rfl
  | cons c r =>
    rw [hx] at h
    simp_all [words]

lemma isCommand_of_mode {u : Text} (h : u ∈ [['G', '0'], ['G', '1'], ['G', '9', '0'], ['G', '9', '1']]) :
    isCommand u := by
  have hall : ∀ u ∈ [['G', '0'], ['G', '1'], ['G', '9', '0'], ['G', '9', '1']], isCommand u :=
    List.all_iff_forall_prop.mp (by decide)
  exact hall u h

lemma ofMnemonic_of_not_command {u : Text} (h : ¬ isCommand u) : Command.ofMnemonic u = .other := by
  have hne : u ∉ [['G', '0'], ['G', '1'], ['G', '9', '0'], ['G', '9', '1']] := mt isCommand_of_mode h
  simp only [List.mem_cons, List.not_mem_nil, or_false, not_or] at hne
  simp [Command.ofMnemonic, Motion.ofMnemonic?, Motion.mnemonic, hne]

lemma kind_read (x : Text) : (Line.read x).kind = ((mnemonic? x).map Command.ofMnemonic).getD .other := by
  rw [mnemonic?, ← words_splitComment, Line.read]
  dsimp only
  rw [Line.ofCode]
  cases hw : words (splitComment (trim x)).1 with
  | nil => rfl
  | cons w r =>
    dsimp only
    by_cases hc : isCommand (upper w)
    · simp [Line.kind, hc]
    · simp [Line.kind, hc, ofMnemonic_of_not_command hc]

def addresses : List Char := ['X', 'Y', 'Z', 'F']

lemma isAsciiLetter_of_upper {c : Char} (h : upperAscii c ∈ addresses) : isAsciiLetter c := by
  by_cases hc : 'a' ≤ c ∧ c ≤ 'z'
  · simp [isAsciiLetter, hc]
  · rw [upperAscii, if_neg hc] at h
    have hletters : ∀ a ∈ addresses, isAsciiLetter a := List.all_iff_forall_prop.mp (by decide)
    exact hletters c h

lemma read?_of_beginsWith {axis : Char} (ha : axis ∈ addresses) {w : Text} (h : beginsWith axis w) :
    Parameter.read? w = some ⟨axis, Number.parseNumber w.tail⟩ := by
  cases w with
  | nil => simp [beginsWith] at h
  | cons c r =>
    have hu : upperAscii c = axis := by simpa [beginsWith] using h
    rw [Parameter.read?, if_pos (isAsciiLetter_of_upper (hu ▸ ha)), hu]
    rfl

lemma any_read? {axis : Char} (ha : axis ∈ addresses) (w : Text) :
    ((Parameter.read? w).any fun p => p.letter = axis) = beginsWith axis w := by
  by_cases h : beginsWith axis w
  · simp [read?_of_beginsWith ha h, h]
  · rw [Bool.not_eq_true] at h
    cases w with
    | nil => rfl
    | cons c r =>
      have hu : upperAscii c ≠ axis := by simpa [beginsWith] using h
      rw [Parameter.read?, h]
      split <;> simp [hu]

lemma param_read {x : Text} (hx : (mnemonic? x).any isCommand) {axis : Char} (ha : axis ∈ addresses) :
    (Line.read x).param axis = lastWord? axis x := by
  have hu : upperAscii axis = axis := by
    have hletters : ∀ a ∈ addresses, upperAscii a = a := List.all_iff_forall_prop.mp (by decide)
    exact hletters axis ha
  rw [mnemonic?, ← words_splitComment] at hx
  rw [lastWord?, ← words_splitComment, Line.read]
  dsimp only
  cases hw : words (splitComment (trim x)).1 with
  | nil => simp [hw] at hx
  | cons w r =>
    have hc : isCommand (upper w) := by simpa [hw] using hx
    rw [Line.ofCode, hw]
    simp only [hc, if_true, Line.param, hu, List.tail_cons]
    rw [← List.filterMap_reverse, List.find?_filterMap]
    simp only [any_read? ha]
    cases hf : r.reverse.find? (beginsWith axis) with
    | none => rfl
    | some v =>
      simp [read?_of_beginsWith ha (List.find?_some hf)]

lemma mnemonic?_of_isInert {x : Text} (h : isInert x) : mnemonic? x = none := by
  simp [mnemonic?, codeWords_of_isInert h]

lemma ofMnemonic?_eq_some {u : Text} {m : Motion} : Motion.ofMnemonic? u = some m ↔ u = m.mnemonic := by
  rw [Motion.ofMnemonic?]
  cases m <;> split_ifs <;> simp_all [Motion.mnemonic]

lemma motion?_ofMnemonic (u : Text) : (Command.ofMnemonic u).motion? = Motion.ofMnemonic? u := by
  rw [Command.ofMnemonic]
  split
  · rename_i m h
    exact h.symm
  · rename_i h
    split_ifs <;> exact h.symm

def motionOf? (x : Text) : Option Motion := (mnemonic? x).bind Motion.ofMnemonic?

lemma motionOf?_eq_some {x : Text} {m : Motion} : motionOf? x = some m ↔ mnemonic? x = some m.mnemonic := by
  simp [motionOf?, Option.bind_eq_some_iff, ofMnemonic?_eq_some]

lemma motion?_read (x : Text) : (Line.read x).kind.motion? = motionOf? x := by
  rw [kind_read, motionOf?]
  cases mnemonic? x with
  | none => rfl
  | some u => exact motion?_ofMnemonic u

lemma relative_read (x : Text) : (Line.read x).kind = .relative ↔ mnemonic? x = some ['G', '9', '1'] := by
  rw [kind_read]
  cases mnemonic? x with
  | none => simp
  | some u =>
    simp only [Option.map_some, Option.getD_some, Option.some.injEq]
    rw [Command.ofMnemonic, Motion.ofMnemonic?]
    split_ifs <;> simp_all [Motion.mnemonic]

lemma axisWords_read {x : Text} {m : Motion} (hm : motionOf? x = some m) :
    (Line.read x).axisWords =
      ⟨lastWord? 'X' x, lastWord? 'Y' x, lastWord? 'Z' x, lastWord? 'F' x⟩ := by
  have hx : (mnemonic? x).any isCommand := by
    rw [motionOf?_eq_some.mp hm]
    cases m <;> rfl
  rw [Line.axisWords, param_read hx (by decide), param_read hx (by decide), param_read hx (by decide),
    param_read hx (by decide)]

lemma isSome_lastWord? (axis : Char) (x : Text) :
    (lastWord? axis x).isSome = (codeWords x).tail.any (beginsWith axis) := by
  rw [lastWord?, Option.isSome_map, List.isSome_find?, List.any_reverse]

lemma isSome_motionOf? (x : Text) :
    (motionOf? x).isSome = (mnemonic? x = some ['G', '0'] || mnemonic? x = some ['G', '1']) := by
  rw [Bool.eq_iff_iff, Option.isSome_iff_exists]
  simp only [motionOf?_eq_some, Bool.or_eq_true, decide_eq_true_eq]
  constructor
  · rintro ⟨m, hm⟩
    cases m
    · exact .inl hm
    · exact .inr hm
  · rintro (h | h)
    · exact ⟨.rapid, h⟩
    · exact ⟨.linear, h⟩

lemma moves_eq (x : Text) : moves x = ((motionOf? x).isSome &&
    ((lastWord? 'X' x).isSome || (lastWord? 'Y' x).isSome || (lastWord? 'Z' x).isSome)) := by
  have ha : ((codeWords x).tail.any fun w => ['X', 'Y', 'Z'].any (beginsWith · w)) =
      ((lastWord? 'X' x).isSome || (lastWord? 'Y' x).isSome || (lastWord? 'Z' x).isSome) := by
    rw [Bool.eq_iff_iff]
    simp only [isSome_lastWord?, Bool.or_eq_true, List.any_eq_true, List.any_cons, List.any_nil, Bool.or_false,
      ← exists_or, ← and_or_left, Bool.or_assoc]
  rw [moves, ha, ← isSome_motionOf?]
  cases hi : isInert x
  · simp
  · simp [motionOf?, mnemonic?_of_isInert hi]

lemma isSome_motionOf?_of_moves {x : Text} (h : moves x) : (motionOf? x).isSome := by
  rw [moves_eq, Bool.and_eq_true] at h
  exact h.1

@[simp] lemma Statement.kind_mk (l : Nat) (x : Text) (content : Line) :
    Statement.kind ⟨l, x, content⟩ = content.kind := rfl

lemma place_concat (xs : List Text) (x : Text) :
    place (xs ++ [x]) = if moves x then
      ⟨(lastWord? 'X' x).getD (place xs).x, (lastWord? 'Y' x).getD (place xs).y, (lastWord? 'Z' x).getD (place xs).z⟩
      else place xs := by
  have h : ∀ axis, latest axis (xs ++ [x]) =
      if moves x then (lastWord? axis x).getD (latest axis xs) else latest axis xs := by
    intro axis
    rw [latest, List.reverse_concat, List.findSome?_cons]
    cases moves x <;> cases lastWord? axis x <;> rfl
  simp only [place, h]
  split <;> rfl

lemma step_of_moves {t : Tracker} {xs : List Text} (ht : t.position = place xs) (l : Nat) {x : Text}
    (hx : moves x) : ∃ m, motionOf? x = some m ∧ t.step ⟨l, x, .read x⟩ =
      (some ⟨t.count, l, place (xs ++ [x]), m⟩, ⟨place (xs ++ [x]), t.count + 1⟩) := by
  have hw := moves_eq x ▸ hx
  rw [Bool.and_eq_true] at hw
  obtain ⟨m, hm⟩ := Option.isSome_iff_exists.mp hw.1
  refine ⟨m, hm, ?_⟩
  simp only [Tracker.step, Statement.kind_mk, motion?_read, hm, axisWords_read hm, AxisWords.hasAxis, hw.2, if_true,
    AxisWords.apply, ht, place_concat, hx]

lemma step_of_not_moves (t : Tracker) (l : Nat) {x : Text} (hx : ¬ moves x) :
    t.step ⟨l, x, .read x⟩ = (none, t) := by
  rw [Tracker.step, Statement.kind_mk, motion?_read]
  cases hm : motionOf? x with
  | none => rfl
  | some m =>
    rw [moves_eq, hm, Option.isSome_some, Bool.true_and] at hx
    simp only [axisWords_read hm, AxisWords.hasAxis, hx]
    rfl

def movesOf (ls : List (Text × Nat)) : List (Motion × Nat) :=
  ls.filterMap fun (x, l) => if moves x then (motionOf? x).map (·, l) else none

lemma movesOf_cons {y : Text} {m : Motion} (hy : moves y) (hm : motionOf? y = some m) (l : Nat)
    (ls : List (Text × Nat)) : movesOf ((y, l) :: ls) = (m, l) :: movesOf ls :=
  List.filterMap_cons_some (by simp [hy, hm])

lemma movesOf_cons_other {y : Text} (hy : ¬ moves y) (l : Nat) (ls : List (Text × Nat)) :
    movesOf ((y, l) :: ls) = movesOf ls :=
  List.filterMap_cons_none (by simp [hy])

lemma ofLines_cons {y : Text} (hy : isInert y = false) (l : Nat) (ls : List (Text × Nat)) :
    Statement.ofLines ((y, l) :: ls) = ⟨l, y, .read y⟩ :: Statement.ofLines ls :=
  List.filterMap_cons_some (by simp [hy])

lemma ofLines_cons_inert {y : Text} (hy : isInert y) (l : Nat) (ls : List (Text × Nat)) :
    Statement.ofLines ((y, l) :: ls) = Statement.ofLines ls :=
  List.filterMap_cons_none (by simp [hy])

lemma not_isInert_of_moves {x : Text} (hx : moves x) : isInert x = false := by
  simp only [moves, Bool.and_eq_true, Bool.not_eq_true'] at hx
  exact hx.1.1

lemma nodes_cons_other (t : Tracker) {y : Text} (hy : ¬ moves y) (l : Nat) (ls : List (Text × Nat)) :
    t.nodes (Statement.ofLines ((y, l) :: ls)) = t.nodes (Statement.ofLines ls) := by
  cases hi : isInert y with
  | true => rw [ofLines_cons_inert hi]
  | false =>
    rw [ofLines_cons hi, Tracker.nodes, step_of_not_moves t l hy]
    rfl

def nodeAt (ls : List Text) (i : Nat) (move : Motion × Nat) : Node :=
  ⟨i, move.2, place (ls.take (move.2 + 1)), move.1⟩

theorem nodes_ofLines {t : Tracker} {xs : List Text} (ht : t.position = place xs) (ys : List Text) :
    t.nodes (Statement.ofLines (ys.zipIdx xs.length)) =
      (movesOf (ys.zipIdx xs.length)).mapIdx fun i => nodeAt (xs ++ ys) (t.count + i) := by
  induction ys generalizing t xs with
  | nil => rfl
  | cons y ys ih =>
    have happ : xs ++ y :: ys = xs ++ [y] ++ ys := by simp
    have hlen : xs.length + 1 = (xs ++ [y]).length := by simp
    rw [List.zipIdx_cons]
    by_cases hy : moves y
    · obtain ⟨m, hm, hstep⟩ := step_of_moves ht xs.length hy
      have hfirst : nodeAt (xs ++ [y] ++ ys) t.count (m, xs.length) =
          ⟨t.count, xs.length, place (xs ++ [y]), m⟩ := by
        rw [nodeAt, hlen, List.take_left]
      have hp : (⟨place (xs ++ [y]), t.count + 1⟩ : Tracker).position = place (xs ++ [y]) := rfl
      have hrest := ih hp
      rw [movesOf_cons hy hm, ofLines_cons (not_isInert_of_moves hy), Tracker.nodes, hstep, List.mapIdx_cons,
        happ, Nat.add_zero t.count, hfirst, hlen]
      simp only [hrest, Nat.add_assoc, Nat.add_comm 1]
      rfl
    · have hp : t.position = place (xs ++ [y]) := by rw [place_concat, if_neg hy, ht]
      rw [nodes_cons_other t hy, movesOf_cons_other hy, happ, hlen, ih hp]

lemma nodes_trace (t : Text) : (trace t).nodes = (movesOf (lines t).zipIdx).mapIdx (nodeAt (lines t)) := by
  have hp : Tracker.start.position = place [] := rfl
  have h := nodes_ofLines hp (lines t)
  simpa [trace_eq, statements, Tracker.start] using h

lemma mem_statements {t : Text} {s : Statement} :
    s ∈ statements t ↔ ∃ l x, (lines t)[l]? = some x ∧ ¬ isInert x ∧ s = ⟨l, x, .read x⟩ := by
  simp only [statements, Statement.ofLines, List.mem_filterMap, Prod.exists, List.mk_mem_zipIdx_iff_getElem?]
  constructor
  · rintro ⟨x, l, hx, hs⟩
    split at hs
    · cases hs
    · rename_i hi
      exact ⟨l, x, hx, hi, (Option.some.inj hs).symm⟩
  · rintro ⟨l, x, hx, hi, rfl⟩
    exact ⟨x, l, hx, by simp [hi]⟩

lemma mem_movesOf {ls : List Text} {m : Motion} {l : Nat} :
    (m, l) ∈ movesOf ls.zipIdx ↔ ∃ x, ls[l]? = some x ∧ moves x ∧ motionOf? x = some m := by
  simp only [movesOf, List.mem_filterMap, Prod.exists, List.mem_zipIdx_iff_getElem?]
  constructor
  · rintro ⟨x, k, hx, h⟩
    split at h
    · rename_i hm
      obtain ⟨m', hm', he⟩ := Option.map_eq_some_iff.mp h
      cases he
      exact ⟨x, hx, hm, hm'⟩
    · cases h
  · rintro ⟨x, hx, hm, h⟩
    exact ⟨x, l, hx, by rw [if_pos hm, h]; rfl⟩

lemma pairwise_movesOf (ls : List Text) : (movesOf ls.zipIdx).Pairwise (·.2 < ·.2) := by
  rw [movesOf, List.pairwise_filterMap]
  have hz : ls.zipIdx.Pairwise (·.2 < ·.2) := by
    rw [← List.pairwise_map, List.zipIdx_map_snd]
    exact List.pairwise_lt_range'
  refine hz.imp ?_
  have hsnd : ∀ (x : Text) (l : Nat) (p : Motion × Nat),
      (if moves x then (motionOf? x).map (·, l) else none) = some p → p.2 = l := by
    intro x l p h
    split at h
    · obtain ⟨m, -, rfl⟩ := Option.map_eq_some_iff.mp h
      rfl
    · cases h
  intro a b hab p hp q hq
  rw [hsnd _ _ _ hp, hsnd _ _ _ hq]
  exact hab

lemma relativeLine_ofLines (ls : List Text) (k : Nat) :
    ((Statement.ofLines (ls.zipIdx k)).find? (·.kind = .relative)).map (·.line) =
      (ls.findIdx? fun x => mnemonic? x = some ['G', '9', '1']).map (· + k) := by
  induction ls generalizing k with
  | nil => rfl
  | cons x ls ih =>
    rw [List.zipIdx_cons, List.findIdx?_cons]
    by_cases hx : mnemonic? x = some ['G', '9', '1']
    · have hi : isInert x = false := by
        by_contra hi
        rw [mnemonic?_of_isInert (Bool.not_eq_false _ ▸ hi)] at hx
        cases hx
      rw [ofLines_cons hi, List.find?_cons_of_pos (by simp [relative_read, hx])]
      simp [hx]
    · have hrest : (Statement.ofLines ((x, k) :: ls.zipIdx (k + 1))).find? (·.kind = .relative) =
          (Statement.ofLines (ls.zipIdx (k + 1))).find? (·.kind = .relative) := by
        cases hi : isInert x with
        | true => rw [ofLines_cons_inert hi]
        | false => rw [ofLines_cons hi, List.find?_cons_of_neg (by simp [relative_read, hx])]
      rw [hrest, ih]
      simp [hx, Option.map_map, Function.comp_def, Nat.add_assoc, Nat.add_comm 1]

lemma Trace.index_unique {r : Trace} (hr : r.nodes.Pairwise (·.line < ·.line)) {i j : Nat} {m n : Node}
    (hm : r.nodes[i]? = some m) (hn : r.nodes[j]? = some n) (h : m.line = n.line) : i = j := by
  obtain ⟨hi, rfl⟩ := List.getElem?_eq_some_iff.mp hm
  obtain ⟨hj, rfl⟩ := List.getElem?_eq_some_iff.mp hn
  rcases Nat.lt_trichotomy i j with hij | hij | hij
  · exact absurd h (Nat.ne_of_lt (List.pairwise_iff_getElem.mp hr i j hi hj hij))
  · exact hij
  · exact absurd h (Nat.ne_of_gt (List.pairwise_iff_getElem.mp hr j i hj hi hij))

lemma pairwise_line_trace (t : Text) : (trace t).nodes.Pairwise (·.line < ·.line) := by
  rw [nodes_trace, List.pairwise_iff_getElem]
  intro i j hi hj hij
  simp only [List.getElem_mapIdx]
  exact List.pairwise_iff_getElem.mp (pairwise_movesOf _) i j _ _ hij

lemma getElem?_nodes_trace {t : Text} {i : Nat} {n : Node} : (trace t).nodes[i]? = some n ↔
    ∃ m l, (movesOf (lines t).zipIdx)[i]? = some (m, l) ∧ nodeAt (lines t) i (m, l) = n := by
  rw [nodes_trace, List.getElem?_mapIdx, Option.map_eq_some_iff, Prod.exists]

lemma index_of_getElem?_nodes {t : Text} {i : Nat} {n : Node} (h : (trace t).nodes[i]? = some n) : n.index = i := by
  obtain ⟨m, l, -, rfl⟩ := getElem?_nodes_trace.mp h
  rfl

lemma exists_of_mem_nodes {t : Text} {n : Node} (h : n ∈ (trace t).nodes) : ∃ i m l x,
    n = nodeAt (lines t) i (m, l) ∧ (lines t)[l]? = some x ∧ moves x ∧ motionOf? x = some m := by
  obtain ⟨i, hi⟩ := List.mem_iff_getElem?.mp h
  obtain ⟨m, l, hl, rfl⟩ := getElem?_nodes_trace.mp hi
  obtain ⟨x, hx⟩ := mem_movesOf.mp (List.mem_of_getElem? hl)
  exact ⟨i, m, l, x, rfl, hx⟩

lemma nodeOfLine?_trace_eq_some {t : Text} {l i : Nat} :
    (trace t).nodeOfLine? l = some i ↔ ∃ n, (trace t).nodes[i]? = some n ∧ n.line = l := by
  -- No node replaces another at its line, since lines are told apart by the order of the nodes.
  have hfound : ∀ n, (trace t).nodes.reverse.find? (·.line = l) = some n →
      (trace t).nodes[n.index]? = some n ∧ n.line = l := by
    intro n h
    obtain ⟨j, hj⟩ := List.mem_iff_getElem?.mp (List.mem_reverse.mp (List.mem_of_find?_eq_some h))
    rw [index_of_getElem?_nodes hj]
    exact ⟨hj, by simpa using List.find?_some h⟩
  rw [nodeOfLine?_trace, Option.map_eq_some_iff]
  constructor
  · rintro ⟨n, h, rfl⟩
    exact ⟨n, hfound n h⟩
  · rintro ⟨n, hn, hl⟩
    have hs : ((trace t).nodes.reverse.find? (·.line = l)).isSome := by
      rw [List.find?_isSome]
      exact ⟨n, List.mem_reverse.mpr (List.mem_of_getElem? hn), by simpa using hl⟩
    obtain ⟨m, hm⟩ := Option.isSome_iff_exists.mp hs
    obtain ⟨hj, hml⟩ := hfound m hm
    exact ⟨m, hm, Trace.index_unique (pairwise_line_trace t) hj hn (hml.trans hl.symm)⟩

theorem trace_means (t : Text) : (trace t).Means t := by
  refine ⟨pairwise_line_trace t, fun l => ⟨?_, ?_⟩, fun _ _ => index_of_getElem?_nodes, ?_, ?_,
    fun _ _ => nodeOfLine?_trace_eq_some, fun l i => ?_, ?_⟩
  · rintro ⟨n, hn, rfl⟩
    obtain ⟨i, m, l, x, rfl, hl, hx, -⟩ := exists_of_mem_nodes hn
    exact ⟨x, hl, hx⟩
  · rintro ⟨x, hl, hx⟩
    have hm := moves_eq x ▸ hx
    rw [Bool.and_eq_true] at hm
    obtain ⟨m, hm⟩ := Option.isSome_iff_exists.mp hm.1
    obtain ⟨i, hi⟩ := List.mem_iff_getElem?.mp (mem_movesOf.mpr ⟨x, hl, hx, hm⟩)
    exact ⟨_, List.mem_of_getElem? (getElem?_nodes_trace.mpr ⟨m, l, hi, rfl⟩), rfl⟩
  · intro n hn
    obtain ⟨i, m, l, x, rfl, hl, -, hm⟩ := exists_of_mem_nodes hn
    exact ⟨x, hl, motionOf?_eq_some.mp hm⟩
  · intro n hn
    obtain ⟨i, m, l, x, rfl, -⟩ := exists_of_mem_nodes hn
    rfl
  · rw [nodeOfLine?_trace_eq_some, Trace.lineOfNode?, Option.map_eq_some_iff]
  · have h := relativeLine_ofLines (lines t) 0
    simpa [trace_eq, statements] using h

end Toolpath.Program
