import Toolpath.Program.Position

/-!
The check for moves that come back to an earlier position, compared at two decimals. The first visit
of a position is never reported.
-/

namespace Toolpath.Program

inductive Severity
  | error
  | warning
  | information
  deriving DecidableEq, Repr

structure Diagnostic where
  line : Nat
  severity : Severity
  message : Text
  deriving DecidableEq, Repr

inductive Report
  | clean
  | issues (found : List Diagnostic)
  deriving DecidableEq, Repr

namespace Report

def ofDiagnostics : List Diagnostic → Report
  | [] => clean
  | d :: r => issues (d :: r)

def isClean : Report → Bool
  | clean => true
  | issues _ => false

def diagnostics : Report → List Diagnostic
  | clean => []
  | issues found => found

def messages : Report → List Text
  | clean => ["No errors found, G-code is valid.".toList]
  | issues found => found.map fun d => "Line ".toList ++ Text.ofNat (d.line + 1) ++ ": ".toList ++ d.message

end Report

def axisKey (v : Float) : Text :=
  match Number.toFixed (if v == Float.ofNat 0 then Float.ofNat 0 else v) 2 with
  | '-' :: r => if r.all (fun c => c = '0' || c = '.') then r else '-' :: r
  | t => t

def placeKey (p : Position) : Text := Text.join [','] [axisKey p.x, axisKey p.y, axisKey p.z]

def duplicate (key : Text) (line first : Nat) : Diagnostic :=
  ⟨line, .error, "Duplicate node at (".toList ++ key ++ "), first seen on line ".toList ++ Text.ofNat (first + 1)⟩

structure Visits where
  firstLine : Entries Text Nat
  found : List Diagnostic
  deriving DecidableEq, Repr

namespace Visits

def empty : Visits := ⟨[], []⟩

def add (v : Visits) (n : Node) : Visits :=
  let key := placeKey n.position
  match v.firstLine.lookup key with
  | some first => { v with found := v.found ++ [duplicate key n.line first] }
  | none => { v with firstLine := v.firstLine.insert key n.line }

def read (v : Visits) (t : Tracker) : List Statement → Visits
  | [] => v
  | s :: ss =>
    match t.step s with
    | (some n, t) => (v.add n).read t ss
    | (none, t) => v.read t ss

end Visits

def findDuplicates (t : Text) : List Diagnostic := (Visits.empty.read .start (statements t)).found

def check (t : Text) : Report := .ofDiagnostics (findDuplicates t)

end Toolpath.Program
