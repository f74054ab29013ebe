import Toolpath.Command.Run

/-!
The program on a real file system.
-/

namespace Toolpath.Command

open Files

def diskError (e : IO.Error) : DiskError :=
  -- A code may come with either sign; other causes keep the wording of the system.
  let ofCode (code : UInt32) : DiskError :=
    if code = 20 ∨ -code = 20 then .notFolder
    else if code = 21 ∨ -code = 21 then .isFolder
    else .other e.toString.toList
  match e with
  | .noFileOrDirectory .. => .notFound
  | .alreadyExists .. => .alreadyExists
  | .inappropriateType _ code _ => ofCode code
  | e => .other e.toString.toList

def attempt {α : Type} (act : IO α) : IO (Except DiskError α) := do
  try return .ok (← act)
  catch e => return .error (diskError e)

def readBytes (p : Path) : IO (Except DiskError Text.Utf8.Bytes) :=
  attempt (return (← IO.FS.readBinFile (String.ofList p)).toList)

def realDisk : Disk IO where
  kind? p := do
    match ← readBytes p with
    | .ok _ => return some .file
    | .error .isFolder => return some .folder
    | .error .notFound | .error .notFolder => return none
    | .error _ => return some .file
  read := readBytes
  write p b := attempt (IO.FS.writeBinFile (String.ofList p) ⟨b.toArray⟩)
  makeFolders p := attempt (IO.FS.createDirAll (String.ofList p))

def configHome : IO Path := do
  match ← IO.getEnv "XDG_CONFIG_HOME" with
  | some p => if p.toList.head? = some '/' then return p.toList
  | none => pure ()
  return Path.join ((← IO.getEnv "HOME").getD "").toList ".config".toList

end Toolpath.Command

open Toolpath Toolpath.Command in
def main (args : List String) : IO UInt32 := do
  let outcome ← run realDisk (Settings.standardPath (← configHome)) (args.map String.toList)
  IO.print (String.ofList outcome.output)
  match outcome.failure with
  | some f => IO.eprintln ("Error: " ++ String.ofList f.message)
  | none => if outcome.code = 2 then IO.eprintln ("error: wrong arguments\n\n" ++ String.ofList usageText)
  return outcome.code.toUInt32
