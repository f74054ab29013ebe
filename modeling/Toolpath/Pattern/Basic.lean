import Toolpath.Pattern.Class

/-!
Search patterns and what they match. `Pattern.ends` lists the positions where a match from a given
position can end, in order of preference: the first alternative before the second, a greedy repetition
longest first. The match at a position is the one that ends at the first of them.
-/

namespace Toolpath

inductive Pattern.Look
  | textStart
  | textEnd
  | lineStart
  | lineEnd
  | anyLineStart
  | anyLineEnd
  | boundary (ascii : Bool)
  | noBoundary (ascii : Bool)
  | wordStart (ascii : Bool)
  | wordEnd (ascii : Bool)
  | noWordBefore (ascii : Bool)
  | noWordAfter (ascii : Bool)
  deriving DecidableEq, Repr

inductive Pattern
  | empty
  | chars (k : Text.Ranges)
  | look (l : Pattern.Look)
  | seq (p q : Pattern)
  | alt (p q : Pattern)
  | rep (p : Pattern) (least : Nat) (most : Option Nat) (greedy : Bool)
  -- `kept` tells whether the group counts as one that is remembered.
  | group (kept : Bool) (p : Pattern)
  deriving Repr

namespace Pattern

structure Cursor where
  index : Nat
  before : Option Char
  rest : Text
  deriving DecidableEq, Repr

namespace Cursor

def start (t : Text) : Cursor := ⟨0, none, t⟩

def next? (c : Cursor) : Option Cursor :=
  match c.rest with
  | [] => none
  | x :: r => some ⟨c.index + 1, some x, r⟩

def after (c : Cursor) : Option Char := c.rest.head?

end Cursor

def isWord (ascii : Bool) (c : Option Char) : Bool :=
  c.any fun c => if ascii then Class.asciiWord.contains c else Text.isWordChar c

def Look.holds (l : Look) (c : Cursor) : Bool :=
  let prev := c.before
  let next := c.after
  match l with
  | textStart => prev.isNone
  | textEnd => next.isNone
  | lineStart => prev.all (· = '\n')
  | lineEnd => next.all (· = '\n')
  | anyLineStart => prev.all (· = '\n') || (prev = some '\r' && next ≠ some '\n')
  | anyLineEnd => next.all (· = '\r') || (next = some '\n' && prev ≠ some '\r')
  | boundary a => isWord a prev != isWord a next
  | noBoundary a => isWord a prev == isWord a next
  | wordStart a => !isWord a prev && isWord a next
  | wordEnd a => isWord a prev && !isWord a next
  | noWordBefore a => !isWord a prev
  | noWordAfter a => !isWord a next

def distinctFrom : Nat → List Cursor → List Cursor
  | _, [] => []
  | seen, c :: r =>
    if seen.testBit c.index then distinctFrom seen r
    else c :: distinctFrom (seen ||| (1 <<< c.index)) r

def distinct (cs : List Cursor) : List Cursor := distinctFrom 0 cs

def andThen (step : Cursor → List Cursor) (cs : List Cursor) : List Cursor := distinct (cs.flatMap step)

def exactly (step : Cursor → List Cursor) : Nat → List Cursor → List Cursor
  | 0, cs => cs
  | n + 1, cs =>
    let ds := andThen step cs
    if ds.map (·.index) = cs.map (·.index) then cs else exactly step n ds

/-- The state of a walk through the rounds of a repetition: a bit per visited state, and the ends found,
latest first. -/
structure Walk where
  seen : Nat
  found : List Cursor

namespace Walk

def emit (w : Walk) (c : Cursor) : Walk := { w with found := c :: w.found }

def mark (w : Walk) (key : Nat) : Walk := { w with seen := w.seen ||| (1 <<< key) }

def rounds (step : Cursor → List Cursor) (greedy : Bool) (key : Nat → Cursor → Nat) :
    Nat → Walk → Cursor → Walk
  -- A state that was visited before adds nothing, so a round that matches nothing ends the repetition.
  | 0, w, c => w.emit c
  | n + 1, w, c =>
    let k := key n c
    if w.seen.testBit k then w
    else
      let w := w.mark k
      if greedy then ((step c).foldl (rounds step greedy key n) w).emit c
      else (step c).foldl (rounds step greedy key n) (w.emit c)

def ends (w : Walk) : List Cursor := distinct w.found.reverse

end Walk

def upTo (step : Cursor → List Cursor) (greedy : Bool) (n : Nat) (c : Cursor) : List Cursor :=
  let width := c.index + c.rest.length + 1
  (Walk.rounds step greedy (fun n c => n * width + c.index) n ⟨0, []⟩ c).ends

def oneOrMore (step : Cursor → List Cursor) (greedy : Bool) (c : Cursor) : List Cursor :=
  -- A first round that matches nothing ends the repetition at once.
  let first (w : Walk) (d : Cursor) : Walk :=
    if d.index = c.index then (w.mark d.index).emit d
    else w.rounds step greedy (fun _ c => c.index) (c.rest.length + 1) d
  ((step c).foldl first ⟨0, []⟩).ends

def repeated (step : Cursor → List Cursor) (least : Nat) (most : Option Nat) (greedy : Bool) (c : Cursor) :
    List Cursor :=
  match most, least with
  | some m, _ => andThen (upTo step greedy (m - least)) (exactly step least [c])
  | none, 0 =>
    let more := oneOrMore step greedy c
    distinct (if greedy then more ++ [c] else c :: more)
  | none, n + 1 => andThen (oneOrMore step greedy) (exactly step n [c])

def ends : Pattern → Cursor → List Cursor
  | empty, c => [c]
  | chars k, c => c.next?.toList.filter fun d => d.before.any k.contains
  | look l, c => if l.holds c then [c] else []
  | seq p q, c => andThen q.ends (p.ends c)
  | alt p q, c => distinct (p.ends c ++ q.ends c)
  | rep p least most greedy, c => repeated p.ends least most greedy c
  | group _ p, c => p.ends c

structure Match where
  start : Nat
  stop : Nat
  deriving DecidableEq, Repr

def firstFrom? (p : Pattern) : Nat → Cursor → Option (Match × Cursor)
  | 0, _ => none
  | fuel + 1, c =>
    match p.ends c with
    | d :: _ => some (⟨c.index, d.index⟩, d)
    | [] => c.next?.bind (firstFrom? p fuel)

def first? (p : Pattern) (c : Cursor) : Option (Match × Cursor) := p.firstFrom? (c.rest.length + 1) c

def matchesFrom (p : Pattern) : Nat → Option Nat → Cursor → List Match
  | 0, _, _ => []
  | fuel + 1, last, c =>
    match p.first? c with
    | none => []
    | some (m, d) =>
      if m.stop = m.start ∧ last = some m.stop then
        match c.next? with
        | none => []
        | some c => matchesFrom p fuel last c
      else m :: matchesFrom p fuel (some m.stop) d

def allMatches (p : Pattern) (t : Text) : List Match := p.matchesFrom (2 * t.length + 2) none (.start t)

end Pattern

end Toolpath
