import Toolpath.Command.Arguments
import Toolpath.Command.Failure
import Toolpath.Settings.Store
import Toolpath.Program.Layout
import Toolpath.Scene.Drawing
import Toolpath.Printout.Summary
import Toolpath.Printout.Findings
import Toolpath.Printout.Rows
import Toolpath.Printout.Pick

/-!
The command: what it prints, which file it writes, and how it ends.
-/

namespace Toolpath.Command

open Files Settings Scene Editor Printout

structure Outcome where
  code : Nat
  output : Text
  failure : Option Failure
  deriving DecidableEq, Repr

def versionText : Text := "gcodeview 0.4.0\n".toList

def usageText : Text :=
  ("Inspect G-code motion: nodes, overlap clusters, duplicates and motion rows\n\n" ++
    "Usage: gcodeview [OPTIONS] <FILE>\n\n" ++
    "Options:\n" ++
    "  -c, --config <PATH>  Configuration file (.toml or .json)\n" ++
    "      --check          Report moves that revisit an earlier position\n" ++
    "      --table          Print the motion rows\n" ++
    "      --format         Print the normalised program\n" ++
    "      --svg <PATH>     Write the projected scene as SVG\n" ++
    "      --json           Emit JSON instead of text\n" ++
    "      --pick <X> <Y>   Resolve a click at a canvas point\n" ++
    "  -h, --help           Print help\n" ++
    "  -V, --version        Print version\n").toList

def shown (json : Bool) (text : Text) (value : Json) : Text := (if json then value.pretty else text) ++ ['\n']

def printouts (a : Arguments) (program : Text) (s : Session) : List Text :=
  let json := a.has .json
  let part (s : Switch) (t : Text) := if a.has s then [t] else []
  let formatted := Program.layout program
  part .check (shown json (findingsText s.check.1) (findingsJson s.check.1)) ++
    part .table (shown json (tableText s.table.rows) (tableJson s.table.rows)) ++
    part .format (shown json formatted (.string formatted)) ++
    match a.pick? with
    | some (x, y) =>
      let p := (Pick.ofClick s ⟨x, y⟩).1
      [shown json p.text p.toJson]
    | none => []

variable {m : Type → Type} [Monad m]

def draw (disk : Disk m) (a : Arguments) (c : Config) (s : Session) : m (Except Failure Unit) :=
  match a.setting? .svg with
  | none => pure (.ok ())
  | some p => do
    let picture := svg s.analysis.projection c.view.canvasWidth c.view.canvasHeight
    return (← disk.writeText p picture).mapError (.writing p)

def inspect (disk : Disk m) (standard : Path) (a : Arguments) (file : Path) : m Outcome := do
  match ← Config.loadOrDefault disk standard (a.setting? .config) with
  | .error e => return ⟨1, [], some (.settings e)⟩
  | .ok c =>
    match ← readProgram disk file with
    | .error e => return ⟨1, [], some (.reading e)⟩
    | .ok program =>
      let s := Session.new c.session program
      let parts := printouts a program s
      match ← draw disk a c s with
      | .error e => return ⟨1, parts.flatten, some e⟩
      | .ok () =>
        let summary := Summary.of s
        return ⟨0, if parts.isEmpty then shown (a.has .json) summary.text summary.toJson else parts.flatten, none⟩

def run (disk : Disk m) (standard : Path) (args : List Text) : m Outcome :=
  match Request.read args with
  | .inspect a file => inspect disk standard a file
  | .version => pure ⟨0, versionText, none⟩
  | .help => pure ⟨0, usageText, none⟩
  | .misuse => pure ⟨2, [], none⟩

end Toolpath.Command
