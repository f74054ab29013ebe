import Toolpath.Pattern.Bracket
import Toolpath.Pattern.Size

/-!
Reading patterns. The open groups are kept on a stack; each has its finished alternatives and the items
of the one that is being read.
-/

namespace Toolpath.Pattern

open Text (Ranges)

inductive Item
  | part (p : Pattern) (depth : Nat)
  | setting

namespace Item

def pattern : Item → Pattern
  | part p _ => p
  | setting => .empty

def depth : Item → Nat
  | part _ d => d
  | setting => 0

def sequence : List Item → Item
  | [] => part .empty 0
  | [i] => part i.pattern i.depth
  | items =>
    let items := items.reverse
    part (items.foldl (fun p i => match p, i with
        | .empty, i => i.pattern
        | p, .setting => p
        | p, .part q _ => .seq p q) .empty)
      (items.foldl (fun d i => max d i.depth) 0 + 1)

def choice : List Item → Item
  | [] => part .empty 0
  | [i] => i
  | i :: r => part (r.foldl (fun p j => .alt j.pattern p) i.pattern) ((i :: r).foldl (fun d i => max d i.depth) 0 + 1)

end Item

structure Group where
  alternatives : List Item
  items : List Item
  deriving Inhabited

namespace Group

def new : Group := ⟨[], []⟩

def add (g : Group) (i : Item) : Group := { g with items := i :: g.items }

def divide (g : Group) : Group := ⟨.sequence g.items :: g.alternatives, []⟩

def close (g : Group) : Item := .choice (.sequence g.items :: g.alternatives)

end Group

def Group.repeatLast (g : Group) (f : Flags) (least : Nat) (most : Option Nat) (greedy : Bool) :
    Except Flaw Group :=
  match g.items with
  | .part p d :: r => .ok { g with items := .part (.rep p least most (greedy != f.swapGreed)) (d + 1) :: r }
  | _ => .error .nothingToRepeat

def readGreed (t : Text) : Bool × Text :=
  match t with
  | '?' :: r => (false, r)
  | t => (true, t)

def literal (f : Flags) (c : Char) : Pattern :=
  .chars (if !f.ignoreCase then .ofChars [c]
    else if f.unicode then Class.letter c
    else .ofChars [Text.lowerAscii c, Text.upperAscii c])

def anyChar (f : Flags) : Except Flaw Pattern :=
  if !f.unicode then .error .notInText
  else if f.dotAll then .ok (.chars .all)
  else .ok (.chars (Ranges.ofChars (if f.anyLineEnd then ['\r', '\n'] else ['\n'])).complement)

def atLineStart (f : Flags) : Look :=
  if f.multiLine then (if f.anyLineEnd then .anyLineStart else .lineStart) else .textStart

def atLineEnd (f : Flags) : Look :=
  if f.multiLine then (if f.anyLineEnd then .anyLineEnd else .lineEnd) else .textEnd

inductive Opening
  | group (f : Flags) (kept : Bool) (name : Option Text)
  | setting (f : Flags)

def isNameChar (first : Bool) (c : Char) : Bool :=
  if first then c = '_' || Text.Property.nameStart.contains c
  else c = '_' || c = '.' || c = '[' || c = ']' || Text.Property.nameContinue.contains c

def readName (t : Text) : Except Flaw (Text × Text) :=
  match t.span (· ≠ '>') with
  | (c :: name, _ :: r) =>
    if isNameChar true c && name.all (isNameChar false) then .ok (c :: name, r) else .error .badGroupName
  | _ => .error .badGroupName

def readOpening (f : Flags) (t : Text) : Except Flaw (Opening × Text) := do
  match skip f t with
  | '?' :: '=' :: _ | '?' :: '!' :: _ | '?' :: '<' :: '=' :: _ | '?' :: '<' :: '!' :: _ => throw .lookAround
  | '?' :: 'P' :: '<' :: r | '?' :: '<' :: r =>
    let (name, r) ← readName r
    return (.group f true (some name), r)
  | '?' :: r =>
    let (g, none?, stop, r) ← Flags.read [] false false f r
    if stop = ':' then return (.group g false none, r)
    else if none? then throw .nothingToRepeat
    else return (.setting g, r)
  | r => return (.group f true none, r)

def depthLimit : Nat := 250

structure Outer where
  flags : Flags
  group : Group
  keepsInner : Bool

structure Reading where
  flags : Flags
  group : Group
  outer : List Outer
  names : List Text

namespace Reading

def add (s : Reading) (p : Pattern) (depth : Nat) : Reading := { s with group := s.group.add (.part p depth) }

def ofPrimitive (s : Reading) : Primitive → Reading
  | .char c => s.add (literal s.flags c) 0
  | .set k => s.add (.chars k) 0
  | .condition l => s.add (.look l) 0

def openGroup (s : Reading) (r : Text) : Except Flaw (Reading × Text) := do
  let (o, r) ← readOpening s.flags r
  match o with
  | .setting f => return ({ s with flags := f, group := s.group.add .setting }, r)
  | .group f kept name =>
    if name.any s.names.contains then throw .badGroupName
    return (⟨f, .new, ⟨s.flags, s.group, kept⟩ :: s.outer, name.toList ++ s.names⟩, r)

def closeGroup (s : Reading) : Except Flaw Reading :=
  match s.outer with
  | [] => .error .unopenedGroup
  | o :: outer =>
    let inner := s.group.close
    .ok ⟨o.flags, o.group.add (.part (.group o.keepsInner inner.pattern) (inner.depth + 1)), outer, s.names⟩

def step (s : Reading) (c : Char) (r : Text) : Except Flaw (Reading × Text) := do
  let f := s.flags
  let repeatLast (least : Nat) (most : Option Nat) (r : Text) : Except Flaw (Reading × Text) := do
    let (greedy, r) := readGreed r
    return ({ s with group := ← s.group.repeatLast f least most greedy }, r)
  match c with
  | '(' => s.openGroup r
  | ')' => return (← s.closeGroup, r)
  | '|' => return ({ s with group := s.group.divide }, r)
  | '[' =>
    let (b, r) ← readBracket f r
    return (s.add (.chars b.set) b.depth, r)
  | '?' => repeatLast 0 (some 1) r
  | '*' => repeatLast 0 none r
  | '+' => repeatLast 1 none r
  | '\x7b' =>
    if !(s.group.items.head?.any fun i => i matches .part _ _) then throw .nothingToRepeat
    let (least, most, r) ← readBounds f r
    repeatLast least most (skip f r)
  | '\\' =>
    let (p, r) ← readEscape f r
    return (s.ofPrimitive p, r)
  | '.' => return (s.add (← anyChar f) 0, r)
  | '^' => return (s.add (.look (atLineStart f)) 0, r)
  | '$' => return (s.add (.look (atLineEnd f)) 0, r)
  | c => return (s.add (literal f c) 0, r)

def finish : Nat → Reading → Text → Except Flaw Item
  | 0, _, _ => .error .tooLarge
  | fuel + 1, s, t =>
    match skip s.flags t with
    | [] => if s.outer.isEmpty then .ok s.group.close else .error .unclosedGroup
    | c :: r => do
      let (s, r) ← s.step c r
      finish fuel s r

end Reading

def read (f : Flags) (t : Text) : Except Flaw Pattern := do
  let i ← Reading.finish (t.length + 1) ⟨f, .new, [], []⟩ t
  if depthLimit < i.depth then throw .tooDeep
  if !i.pattern.form.fits then throw .tooLarge
  return i.pattern

end Toolpath.Pattern
