import Toolpath.Program.Position

/-!
The motion table: one row per node, with the feed carried along. Writing rows back keeps every line
that is no motion and puts the regenerated moves after them.
-/

namespace Toolpath.Table

open Program

structure Row where
  index : Nat
  -- The source line; a row added in the table has none.
  line : Option Nat
  command : Motion
  x : Option Float
  y : Option Float
  z : Option Float
  feed : Option Float
  deriving DecidableEq, Repr

inductive Field
  | x
  | y
  | z
  | feed
  deriving DecidableEq, Repr

namespace Row

def get (r : Row) : Field → Option Float
  | .x => r.x
  | .y => r.y
  | .z => r.z
  | .feed => r.feed

def set (r : Row) (f : Field) (v : Option Float) : Row :=
  match f with
  | .x => { r with x := v }
  | .y => { r with y := v }
  | .z => { r with z := v }
  | .feed => { r with feed := v }

def word (letter : Char) (places : Nat) : Option Float → Text
  | none => []
  | some v => ' ' :: letter :: Number.toFixed v places

def toLine (r : Row) : Text :=
  r.command.mnemonic ++ word 'X' 2 r.x ++ word 'Y' 2 r.y ++ word 'Z' 2 r.z ++ word 'F' 0 r.feed

end Row

def feedAfter (feed : Option Float) (s : Statement) : Option Float :=
  if s.kind.motion?.isSome then (s.content.param 'F').or feed else feed

def rowsFrom (t : Tracker) (feed : Option Float) : List Statement → List Row
  | [] => []
  | s :: r =>
    let feed := feedAfter feed s
    let (n, t) := t.step s
    let row := n.map fun n =>
      ⟨n.index, some n.line, n.motion, some n.position.x, some n.position.y, some n.position.z, feed⟩
    row.toList ++ rowsFrom t feed r

def toRows (t : Text) : List Row := rowsFrom .start none (statements t)

def isMotionLine (t : Text) : Bool := ((Line.read t).kind.motion?).isSome

def absoluteLine : Text := "G90 ; absolute positioning".toList

def beginsAbsolute (t : Text) : Bool :=
  ['G', '9', '0'].isPrefixOf ((Text.trim t).map Text.upperAscii)

def ofRows (rows : List Row) (previous : Text) : Text :=
  if rows.isEmpty then previous
  else
    let kept := (Text.lines previous).filter fun l => !isMotionLine l
    let mode := if kept.any beginsAbsolute then [] else [absoluteLine]
    Text.unlines (kept ++ mode ++ rows.map Row.toLine)

end Toolpath.Table
