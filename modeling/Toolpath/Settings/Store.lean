import Toolpath.Settings.Writer

/-!
Configuration files: loading, saving, and the standard place.
-/

namespace Toolpath.Settings

open Files

def standardPath (configHome : Path) : Path := Path.join configHome "gcodeview/config.toml".toList

def located (p : Path) (e : DiskError) : Text := p ++ ": ".toList ++ e.message

namespace Config

variable {m : Type → Type} [Monad m]

def checked (c : Config) : Except SettingsError Config := (c.validate.mapError .invalid).map fun _ => c

def load (disk : Disk m) (p : Path) : m (Except SettingsError Config) :=
  match Format.ofPath p with
  | .error e => pure (.error (.config e))
  | .ok f => do
    return match ← disk.readText p with
      | .error e => .error (.load (located p e))
      | .ok t => (parse f t).bind checked

def written (c : Config) (p : Path) : Except SettingsError Text := do
  let c ← c.checked
  let f ← (Format.ofPath p).mapError .config
  c.write f

def save (c : Config) (disk : Disk m) (p : Path) : m (Except SettingsError Unit) :=
  match c.written p with
  | .error e => pure (.error e)
  | .ok t => do
    let folders ← if (Path.parent p).isEmpty then pure (.ok ()) else disk.makeFolders (Path.parent p)
    match folders with
    | .error e => return .error (.disk e)
    | .ok () => return (← disk.writeText p t).mapError fun e => .save (located p e)

def loadOrDefault (disk : Disk m) (standard : Path) : Option Path → m (Except SettingsError Config)
  | some p => load disk p
  | none => do
    match ← disk.kind? standard with
    | some _ => load disk standard
    | none => return .ok default

end Config

end Toolpath.Settings
