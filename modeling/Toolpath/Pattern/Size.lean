import Toolpath.Pattern.Form
import Toolpath.Text.Utf8Ranges
import Std.Data.HashMap

/-!
The room that a pattern takes as an automaton over bytes, read forwards and backwards. A state takes 32
bytes, each transition of a state with several of them 8, and each branch of a fork 4. Sets beyond ASCII
share states that read the same bytes, as far as a table of limited size remembers them.
-/

namespace Toolpath.Pattern

open Text (Ranges)
open Text.Utf8 (ByteRange)

structure Tally where
  states : Nat
  extra : Nat
  deriving DecidableEq, Repr

namespace Tally

def none : Tally := ⟨0, 0⟩

def bytes (t : Tally) : Nat := 32 * t.states + t.extra

def add (t : Tally) (states extra : Nat) : Tally := ⟨t.states + states, t.extra + extra⟩

def limit : Nat := 10 * 1024 * 1024

def fits (t : Tally) : Bool := t.bytes ≤ limit

end Tally

structure Built where
  tally : Tally
  forks : Bool
  deriving DecidableEq, Repr

namespace Built

def closed (t : Tally) : Built := ⟨t, false⟩

def followed (b : Built) : Tally := b.tally.add 0 (if b.forks then 4 else 0)

end Built

structure Edge where
  lo : Nat
  hi : Nat
  next : Nat
  deriving DecidableEq, Repr

namespace Edge

def mix (h : UInt64) (n : Nat) : UInt64 := (h ^^^ n.toUInt64) * 1099511628211

def mixAll (l : List Nat) : UInt64 := l.foldl mix 14695981039346656037

def slot (es : List Edge) (size : Nat) : Nat :=
  (es.foldl (fun h e => mix (mix (mix h e.lo) e.hi) e.next) 14695981039346656037).toNat % size

end Edge

structure Memo where
  size : Nat
  slots : Std.HashMap Nat (List Edge × Nat)

namespace Memo

def empty (size : Nat) : Memo := ⟨size, ∅⟩

def find? (m : Memo) (slot : Nat) (key : List Edge) : Option Nat :=
  match m.slots[slot]? with
  | some (k, id) => if k = key then some id else none
  | none => none

def put (m : Memo) (slot : Nat) (key : List Edge) (id : Nat) : Memo :=
  { m with slots := m.slots.insert slot (key, id) }

end Memo

structure Sharing where
  tally : Tally
  memo : Memo

namespace Sharing

def state (s : Sharing) (slot : Nat) (key : List Edge) (extra : Nat) : Nat × Sharing :=
  match s.memo.find? slot key with
  | some id => (id, s)
  | none => (s.tally.states, ⟨s.tally.add 1 extra, s.memo.put slot key s.tally.states⟩)

def ofEdges (s : Sharing) (es : List Edge) : Nat × Sharing := s.state (Edge.slot es s.memo.size) es (8 * es.length)

end Sharing

structure Unfinished where
  edges : List Edge
  last : Option ByteRange

namespace Unfinished

def of (r : ByteRange) : Unfinished := ⟨[], some r⟩

def close (n : Unfinished) (next : Nat) : List Edge :=
  match n.last with
  | some (lo, hi) => n.edges ++ [⟨lo, hi, next⟩]
  | none => n.edges

def finish (target : Nat) (s : Sharing) : List Unfinished → Nat × Sharing
  | [] => (target, s)
  | n :: rest =>
    let (next, s) := finish target s rest
    s.ofEdges (n.close next)

def sharedPart : List Unfinished → List ByteRange → Nat
  | n :: path, r :: rs => if n.last = some r then sharedPart path rs + 1 else 0
  | _, _ => 0

def push (target : Nat) (path : List Unfinished) (s : Sharing) (rs : List ByteRange) :
    List Unfinished × Sharing :=
  let k := sharedPart path rs
  match path.drop k, rs.drop k with
  | n :: rest, r :: new =>
    let (next, s) := finish target s rest
    (path.take k ++ ⟨n.close next, some r⟩ :: new.map of, s)
  | _, _ => (path, s)

end Unfinished

def sequencesOf (k : Ranges) : List (List ByteRange) :=
  k.toList.flatMap fun r => Text.Utf8.sequences Text.Utf8.mostCuts r.1 r.2

def forwardSet (k : Ranges) (t : Tally) : Tally :=
  let target := t.states
  let (path, s) := (sequencesOf k).foldl (fun (path, s) rs => Unfinished.push target path s rs)
    ([⟨[], none⟩], ⟨t.add 1 0, .empty 10000⟩)
  (Unfinished.finish target s path).2.tally

def backwardSet (k : Ranges) (t : Tally) : Tally :=
  let last := t.states + 1
  let step (s : Sharing) (rs : List ByteRange) : Sharing :=
    let (_, s) := rs.foldl (fun (next, s) r =>
      s.state ((Edge.mixAll [next, r.1, r.2]).toNat % s.memo.size) [⟨r.1, r.2, next⟩] 0) (last, s)
    { s with tally := s.tally.add 0 4 }
  ((sequencesOf k).foldl step ⟨t.add 2 0, .empty 1000⟩).tally

def sizeOfSet (back : Bool) (k : Ranges) (t : Tally) : Tally :=
  if Class.isAscii k then t.add 2 (8 * k.toArray.size)
  else if back then backwardSet k t
  else forwardSet k t

def byFirst : List (List UInt8) → List (UInt8 × List (List UInt8))
  | [] => []
  | [] :: ws => byFirst ws
  | (b :: w) :: ws =>
    let rest := byFirst ws
    match rest.lookup b with
    | some us => (b, w :: us) :: rest.filter (·.1 ≠ b)
    | none => (b, [w]) :: rest

def splitAtEmpty : List (List UInt8) → List (List (List UInt8))
  | [] => [[]]
  | [] :: ws => [] :: splitAtEmpty ws
  | w :: ws => (splitAtEmpty ws).modifyHead (w :: ·)

def divideAtEmpty : List (List UInt8) → List (List (List UInt8))
  | [] :: ws => [] :: splitAtEmpty (ws.dropWhile (·.isEmpty))
  | ws => splitAtEmpty ws

def sizeOfWords : Nat → List (List UInt8) → Tally → Tally
  | 0, _, t => t
  | fuel + 1, ws, t =>
    if ws.all (·.isEmpty) then t
    else
      let parts := divideAtEmpty ws
      let t := parts.foldl (fun t part =>
        let firsts := byFirst part
        let t := firsts.foldl (fun t (_, us) => sizeOfWords fuel us t) t
        match firsts.length with
        | 0 => t
        | 1 => t.add 1 4
        | n => t.add 1 (8 * n + 4)) t
      t.add 1 (4 * (parts.length - 1))

def words? (ps : List Form) : Option (List (List UInt8)) :=
  ps.mapM fun p => match p with
    | .text t => some (t.flatMap String.utf8EncodeChar)
    | _ => none

def copies (step : Tally → Option Built) : Nat → Built → Option Built
  | 0, b => some b
  | n + 1, b =>
    match step b.followed with
    | some c => if c.tally.fits then copies step n c else none
    | none => none

def optionalCopies (step : Tally → Option Built) : Nat → Built → Option Built
  | 0, b => some b
  | n + 1, b =>
    match step (b.followed.add 1 8) with
    | some c => if c.tally.fits then optionalCopies step n c else none
    | none => none

mutual

def Form.build (back : Bool) : Form → Tally → Option Built
  | .empty, t => some (.closed (t.add 1 0))
  | .look _, t => some (.closed (t.add 1 0))
  | .text u, t => some (.closed (t.add (u.foldl (fun n c => n + c.utf8Size) 0) 0))
  | .set k, t => some (.closed (sizeOfSet back k t))
  | .group p, t =>
    if back then p.build back t
    else (p.build back (t.add 1 0)).map fun b => .closed (b.followed.add 1 0)
  | .seq ps, t => buildSeq back ps (.closed t)
  | .alt ps, t =>
    match words? ps with
    | some ws =>
      let ws := if back then ws.map List.reverse else ws
      some (.closed (sizeOfWords (ws.foldr (fun w n => w.length + n) 1) ws (t.add 1 0)))
    | none => (buildAlt back 0 ps t).map .closed
  | .rep p least most _, t =>
    let step := p.build back
    match least, most with
    | 0, some 1 => (step (t.add 1 0)).map fun b => .closed (b.followed.add 1 8)
    | 0, none =>
      if p.least.any (0 < ·) then (step (t.add 1 0)).map fun b => ⟨b.followed.add 0 4, true⟩
      else (step t).map fun b => .closed (b.followed.add 3 16)
    | n, none => (copies step n (.closed t)).map fun b => ⟨b.followed.add 1 4, true⟩
    | n, some m =>
      if n = m then copies step n (.closed t)
      else
        let fixed := if n = 0 then some (.closed (t.add 1 0)) else copies step n (.closed t)
        fixed.bind fun b => (optionalCopies step (m - n) ⟨b.tally.add 1 0, b.forks⟩).map fun b => .closed b.followed

def buildSeq (back : Bool) : List Form → Built → Option Built
  | [], b => some b
  | p :: ps, b =>
    if back then (buildSeq back ps b).bind fun b => p.build back b.followed
    else (p.build back b.followed).bind (buildSeq back ps)

def buildAlt (back : Bool) (i : Nat) : List Form → Tally → Option Tally
  -- The fork and the state at which the branches meet come after the second branch.
  | [], t => some t
  | p :: ps, t =>
    match p.build back t with
    | some b =>
      if b.tally.fits then buildAlt back (i + 1) ps (b.followed.add (if i = 1 then 2 else 0) 4) else none
    | none => none

end

namespace Form

def opening (anchored : Bool) : Tally := if anchored then Tally.none.add 1 0 else Tally.none.add 3 16

def fitsForwards (p : Form) : Bool :=
  ((group p).build false (opening p.fromStart)).any fun b => (b.followed.add 1 0).fits

def fitsBackwards (p : Form) : Bool :=
  (p.build true (opening p.toEnd)).any fun b => (b.followed.add 1 0).fits

def fits (p : Form) : Bool := p.fitsForwards && p.fitsBackwards

end Form

end Toolpath.Pattern
