import Toolpath.Files.Path
import Toolpath.Number.Decimal

/-!
The arguments of the command line: one program file, and options that may stand before or behind it.
-/

namespace Toolpath.Command

open Files

inductive Switch
  | check
  | table
  | format
  | json
  deriving DecidableEq, Repr

inductive Setting
  | config
  | svg
  deriving DecidableEq, Repr

structure Arguments where
  file : Option Path
  switches : List Switch
  settings : List (Setting × Path)
  picks : List Float
  deriving DecidableEq, Repr

namespace Arguments

def empty : Arguments := ⟨none, [], [], []⟩

def has (a : Arguments) (s : Switch) : Bool := a.switches.contains s

def setting? (a : Arguments) (s : Setting) : Option Path := a.settings.lookup s

def pick? (a : Arguments) : Option (Float × Float) :=
  match a.picks with
  | [x, y] => some (x, y)
  | _ => none

def addFile? (a : Arguments) (p : Path) : Option Arguments :=
  if p.isEmpty ∨ a.file.isSome then none else some { a with file := some p }

def addSwitch? (a : Arguments) (s : Switch) : Option Arguments :=
  if a.has s then none else some { a with switches := s :: a.switches }

def addSetting? (a : Arguments) (s : Setting) (p : Path) : Option Arguments :=
  if p.isEmpty ∨ (a.setting? s).isSome then none else some { a with settings := (s, p) :: a.settings }

def addPick? (a : Arguments) (x y : Text) : Option Arguments := do
  return { a with picks := a.picks ++ [← Number.readFloat? x, ← Number.readFloat? y] }

end Arguments

inductive Request
  | inspect (a : Arguments) (file : Path)
  | version
  | help
  | misuse
  deriving DecidableEq, Repr

inductive LongOption
  | switch (s : Switch)
  | setting (s : Setting)
  | pick
  | version
  | help
  deriving DecidableEq, Repr

def LongOption.ofName? (name : Text) : Option LongOption :=
  match String.ofList name with
  | "check" => some (.switch .check)
  | "table" => some (.switch .table)
  | "format" => some (.switch .format)
  | "json" => some (.switch .json)
  | "config" => some (.setting .config)
  | "svg" => some (.setting .svg)
  | "pick" => some .pick
  | "version" => some .version
  | "help" => some .help
  | _ => none

def isUnsigned (t : Text) : Bool :=
  let mantissa := t.takeWhile fun c => c ≠ 'e' && c ≠ 'E'
  let exponent := t.drop mantissa.length
  t.head?.all Text.isAsciiDigit && mantissa.all (fun c => Text.isAsciiDigit c || c = '.') &&
    mantissa.count '.' ≤ 1 && (exponent.drop 1).all Text.isAsciiDigit && exponent.length ≠ 1

def isValue (numeric : Bool) : Text → Bool
  -- Where numbers are expected, a negative number is no option.
  | '-' :: '-' :: _ => false
  | '-' :: c :: r => numeric && isUnsigned (c :: r)
  | _ => true

def addFiles? (a : Arguments) (ps : List Path) : Option Arguments := ps.foldlM Arguments.addFile? a

def finish (a : Arguments) : Request :=
  match a.file with
  | some p => .inspect a p
  | none => .misuse

def proceed (a : Option Arguments) (k : Arguments → Request) : Request :=
  match a with
  | some a => k a
  | none => .misuse

def splitValue (t : Text) : Text × Option Text :=
  match t.span (· ≠ '=') with
  | (name, _ :: value) => (name, some value)
  | (name, []) => (name, none)

def readFrom (a : Arguments) : List Text → Request
  | [] => finish a
  | ['-', '-'] :: r => proceed (addFiles? a r) finish
  | ('-' :: '-' :: long) :: r =>
    match splitValue long with
    | (name, some value) =>
      match LongOption.ofName? name with
      | some (.setting s) => proceed (a.addSetting? s value) (readFrom · r)
      | _ => .misuse
    | (name, none) =>
      match LongOption.ofName? name, r with
      | some (.switch s), r => proceed (a.addSwitch? s) (readFrom · r)
      | some (.setting s), v :: r =>
        if isValue false v then proceed (a.addSetting? s v) (readFrom · r) else .misuse
      | some .pick, x :: y :: r =>
        if isValue true x ∧ isValue true y then proceed (a.addPick? x y) (readFrom · r) else .misuse
      | some .version, _ => .version
      | some .help, _ => .help
      | _, _ => .misuse
  | ('-' :: 'c' :: '=' :: v) :: r => proceed (a.addSetting? .config v) (readFrom · r)
  | ['-', 'c'] :: v :: r =>
    if isValue false v then proceed (a.addSetting? .config v) (readFrom · r) else .misuse
  | ['-', 'c'] :: [] => .misuse
  | ('-' :: 'c' :: v) :: r => proceed (a.addSetting? .config v) (readFrom · r)
  | ('-' :: 'V' :: _) :: _ => .version
  | ('-' :: 'h' :: _) :: _ => .help
  | ('-' :: _ :: _) :: _ => .misuse
  | p :: r => proceed (a.addFile? p) (readFrom · r)

def Request.read (args : List Text) : Request := readFrom .empty args

end Toolpath.Command
