import Toolpath.Text.Basic

/-!
Paths with slashes. Empty pieces and single dots name nothing of their own.
-/

namespace Toolpath.Files

abbrev Path := Text

namespace Path

def pieces : Path → List Text
  | [] => [[]]
  | c :: r => if c = '/' then [] :: pieces r else (pieces r).modifyHead (c :: ·)

def isName (t : Text) : Bool := t ≠ [] && t ≠ ['.']

def names (p : Path) : List Text := (pieces p).filter isName

def fileName? (p : Path) : Option Text := (names p).getLast?.filter (· ≠ ['.', '.'])

def extension? (p : Path) : Option Text := do
  let name ← fileName? p
  let ending := name.reverse.takeWhile (· ≠ '.')
  if ending.length + 1 < name.length then some ending.reverse else none

def parent (p : Path) : Path :=
  (if p.head? = some '/' then ['/'] else []) ++ Text.join ['/'] (names p).dropLast

def join (p q : Path) : Path := if p.isEmpty then q else p ++ '/' :: q

end Path

end Toolpath.Files
