import Toolpath.Entries
import Toolpath.Number.Fixed
import Toolpath.Program.Statement

/-!
Tool positions and the tracker that carries them through a program.
-/

namespace Toolpath

structure Position where
  x : Float
  y : Float
  z : Float
  deriving DecidableEq, Repr

namespace Position

def origin : Position := ⟨Float.ofNat 0, Float.ofNat 0, Float.ofNat 0⟩

def isFinite (p : Position) : Bool := p.x.isFinite && p.y.isFinite && p.z.isFinite

def display (p : Position) : Text :=
  let part (v : Float) := Number.fixed v 2
  '(' :: Text.join [',', ' '] [part p.x, part p.y, part p.z] ++ [')']

end Position

namespace Program

def AxisWords.apply (w : AxisWords) (p : Position) : Position :=
  ⟨w.x.getD p.x, w.y.getD p.y, w.z.getD p.z⟩

structure Node where
  index : Nat
  line : Nat
  position : Position
  motion : Motion
  deriving DecidableEq, Repr

structure Tracker where
  position : Position
  count : Nat
  deriving DecidableEq, Repr

namespace Tracker

def start : Tracker := ⟨.origin, 0⟩

def step (t : Tracker) (s : Statement) : Option Node × Tracker :=
  -- Restating the current position makes a node too.
  match s.kind.motion? with
  | none => (none, t)
  | some m =>
    let w := s.content.axisWords
    if w.hasAxis then
      let p := w.apply t.position
      (some ⟨t.count, s.line, p, m⟩, ⟨p, t.count + 1⟩)
    else (none, t)

end Tracker

structure Trace where
  nodes : List Node
  nodeAtLine : Entries Nat Nat
  -- the first line that asks for relative coordinates
  relativeLine : Option Nat
  deriving DecidableEq, Repr

namespace Trace

def empty : Trace := ⟨[], [], none⟩

def nodeOfLine? (r : Trace) (line : Nat) : Option Nat := r.nodeAtLine.lookup line

def lineOfNode? (r : Trace) (index : Nat) : Option Nat := r.nodes[index]?.map (·.line)

def record (r : Trace) (n : Node) : Trace :=
  { r with nodes := r.nodes ++ [n], nodeAtLine := r.nodeAtLine.insert n.line n.index }

def noteRelative (r : Trace) (line : Nat) : Trace := { r with relativeLine := r.relativeLine.or (some line) }

-- A distance mode is never a move, so the tracker is not asked about it.
def read (r : Trace) (t : Tracker) : List Statement → Trace
  | [] => r
  | s :: ss =>
    match s.kind with
    | .absolute => r.read t ss
    | .relative => (r.noteRelative s.line).read t ss
    | _ =>
      match t.step s with
      | (some n, t) => (r.record n).read t ss
      | (none, t) => r.read t ss

end Trace

def trace (t : Text) : Trace := Trace.empty.read .start (statements t)

end Program

end Toolpath
