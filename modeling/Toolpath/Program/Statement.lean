import Toolpath.Program.Line

/-!
Commands and statements. A statement is a line that is neither blank nor a mere comment; skipped
lines still count.
-/

namespace Toolpath.Program

inductive Motion
  | rapid
  | linear
  deriving DecidableEq, Repr

namespace Motion

def mnemonic : Motion → Text
  | rapid => ['G', '0']
  | linear => ['G', '1']

def ofMnemonic? (t : Text) : Option Motion :=
  -- `G00` is no motion.
  if t = rapid.mnemonic then some rapid else if t = linear.mnemonic then some linear else none

end Motion

inductive Command
  | motion (m : Motion)
  | absolute
  | relative
  | other
  deriving DecidableEq, Repr

namespace Command

def ofMnemonic (t : Text) : Command :=
  match Motion.ofMnemonic? t with
  | some m => motion m
  | none =>
    if t = ['G', '9', '0'] then absolute
    else if t = ['G', '9', '1'] then relative
    else other

def motion? : Command → Option Motion
  | motion m => some m
  | _ => none

end Command

def Line.kind (l : Line) : Command :=
  match l.command with
  | some c => .ofMnemonic c
  | none => .other

structure Statement where
  line : Nat
  raw : Text
  content : Line
  deriving DecidableEq, Repr

def Statement.kind (s : Statement) : Command := s.content.kind

def Statement.ofLines (ls : List (Text × Nat)) : List Statement :=
  ls.filterMap fun (raw, line) => if isInert raw then none else some ⟨line, raw, .read raw⟩

def statements (t : Text) : List Statement := Statement.ofLines (Text.lines t).zipIdx

end Toolpath.Program
