import Toolpath.Program.Line

/-!
The normal layout of a program: upper-case words with one space between them, comments as they are,
and no change to the number of lines.
-/

namespace Toolpath.Program

open Text

def layoutLine (t : Text) : Text :=
  let t := trim t
  if isInert t then t
  else
    let (code, comment) := splitComment t
    let code := join [' '] ((words code).map upper)
    match comment with
    | some c => if code.isEmpty then c else code ++ ' ' :: c
    | none => code

def layout (t : Text) : Text := unlines ((lines t).map layoutLine)

end Toolpath.Program
