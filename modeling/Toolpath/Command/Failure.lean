import Toolpath.Settings.Error
import Toolpath.Files.Program

/-!
What makes the command fail.
-/

namespace Toolpath.Command

open Program Files Settings

inductive Failure
  | program (e : Fault)
  | settings (e : SettingsError)
  | reading (e : ReadError)
  | writing (p : Path) (e : DiskError)
  | other (reason : Text)
  deriving DecidableEq, Repr

namespace Failure

def message : Failure → Text
  | program e => e.message
  | settings _ => "Loading configuration".toList
  | reading e => e.message
  | writing p _ => "Writing ".toList ++ p
  | other reason => reason

def isProgram : Failure → Bool
  | program _ => true
  | _ => false

end Failure

end Toolpath.Command
