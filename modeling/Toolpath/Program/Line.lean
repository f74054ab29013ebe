import Toolpath.Text.Upper
import Toolpath.Number.Decimal

/-!
One line of a program: a command, parameter words and a comment from the first semicolon on. Reading
never fails: a malformed number is a NaN, and a line without a command does nothing.
-/

namespace Toolpath.Program

open Text

structure Parameter where
  letter : Char
  value : Float
  deriving DecidableEq, Repr

structure Line where
  command : Option Text
  parameters : List Parameter
  comment : Option Text
  deriving DecidableEq, Repr

def splitComment (t : Text) : Text × Option Text :=
  match t.span (· ≠ ';') with
  | (code, []) => (trim code, none)
  | (code, comment) => (trim code, some comment)

def isInert (t : Text) : Bool := (trim t).head?.all (· = ';')

def isCommand : Text → Bool
  | c :: d :: _ => (c = 'G' || c = 'M') && isDigit d
  | _ => false

def Parameter.read? : Text → Option Parameter
  | c :: r => if isAsciiLetter c then some ⟨upperAscii c, Number.parseNumber r⟩ else none
  | [] => none

namespace Line

def ofCode (code : Text) (comment : Option Text) : Line :=
  match words code with
  | [] => ⟨none, [], comment⟩
  | w :: r =>
    if isCommand (upper w) then ⟨some (upper w), r.filterMap Parameter.read?, comment⟩
    else ⟨none, (w :: r).filterMap Parameter.read?, comment⟩

def read (t : Text) : Line :=
  let (code, comment) := splitComment (trim t)
  ofCode code comment

def param (l : Line) (letter : Char) : Option Float :=
  (l.parameters.reverse.find? (·.letter = upperAscii letter)).map (·.value)

end Line

structure AxisWords where
  x : Option Float
  y : Option Float
  z : Option Float
  feed : Option Float
  deriving DecidableEq, Repr

def AxisWords.hasAxis (w : AxisWords) : Bool := w.x.isSome || w.y.isSome || w.z.isSome

def Line.axisWords (l : Line) : AxisWords := ⟨l.param 'X', l.param 'Y', l.param 'Z', l.param 'F'⟩

end Toolpath.Program
