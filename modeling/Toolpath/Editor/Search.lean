import Toolpath.Pattern.Reader

/-!
Find and replace. Queries are patterns, matches are ranges of character offsets, and empty matches are
never reported.
-/

namespace Toolpath.Editor

open Pattern (Match)

structure SearchOptions where
  caseSensitive : Bool
  wholeWord : Bool
  deriving DecidableEq, Repr

def SearchOptions.default : SearchOptions := ⟨false, false⟩

structure InvalidExpression where
  pattern : Text
  reason : Text
  deriving DecidableEq, Repr

def patternText (query : Text) (o : SearchOptions) : Text :=
  if o.wholeWord then "\\b(?:".toList ++ query ++ ")\\b".toList else query

def compile (query : Text) (o : SearchOptions) : Except InvalidExpression Pattern :=
  match Pattern.read { Pattern.Flags.plain with ignoreCase := !o.caseSensitive } (patternText query o) with
  | .ok p => .ok p
  | .error e => .error ⟨query, e.message⟩

def findMatches (t query : Text) (o : SearchOptions) : Except InvalidExpression (List Match) :=
  if query.isEmpty then .ok []
  else (compile query o).map fun p => (p.allMatches t).filter fun m => m.start < m.stop

def replaceMatch (t : Text) (m : Match) (w : Text) : Text :=
  t.take m.start ++ w ++ t.drop (max m.start m.stop)

def splice (w : Text) : Nat → List Match → Text → Text
  | _, [], t => t
  | pos, m :: r, t => t.take (m.start - pos) ++ w ++ splice w m.stop r (t.drop (m.stop - pos))

def replaceAll (t query : Text) (o : SearchOptions) (w : Text) : Except InvalidExpression (Text × Nat) :=
  (findMatches t query o).map fun ms => (splice w 0 ms t, ms.length)

structure Search where
  query : Text
  options : SearchOptions
  found : List Match
  current : Option Nat
  error : Option InvalidExpression
  deriving DecidableEq, Repr

namespace Search

def none : Search := ⟨[], .default, [], Option.none, Option.none⟩

def run (t query : Text) (o : SearchOptions) : Except InvalidExpression Nat × Search :=
  match findMatches t query o with
  | .ok ms => (.ok ms.length, ⟨query, o, ms, if ms.isEmpty then Option.none else some 0, Option.none⟩)
  | .error e => (.error e, ⟨query, o, [], Option.none, some e⟩)

def refresh (s : Search) (t : Text) : Except InvalidExpression Nat × Search := run t s.query s.options

def isActive (s : Search) : Bool := !s.query.isEmpty

def currentMatch (s : Search) : Option Match := s.current.bind (s.found[·]?)

def next (s : Search) : Option Match × Search :=
  let n := s.found.length
  if n = 0 then (Option.none, s)
  else
    let s := { s with current := some (match s.current with
      | some i => (i + 1) % n
      | Option.none => 0) }
    (s.currentMatch, s)

def previous (s : Search) : Option Match × Search :=
  let n := s.found.length
  if n = 0 then (Option.none, s)
  else
    let s := { s with current := some (match s.current with
      | some i => (i + n - 1) % n
      | Option.none => n - 1) }
    (s.currentMatch, s)

def replaceCurrent (s : Search) (t w : Text) : Option Text := s.currentMatch.map (replaceMatch t · w)

def replaceEach (s : Search) (t w : Text) : Except InvalidExpression (Option Text) :=
  if s.found.isEmpty then .ok Option.none else (replaceAll t s.query s.options w).map (some ·.1)

def status (s : Search) : Text :=
  if s.error.isSome then "Invalid expression".toList
  else match s.current with
    | some i => Text.ofNat (i + 1) ++ " of ".toList ++ Text.ofNat s.found.length
    | Option.none => "No results".toList

end Search

end Toolpath.Editor
