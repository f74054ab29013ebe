import Toolpath.Editor.Session
import Toolpath.Json.Basic

/-!
The summary of a program: counts, the extent of its positions, and where drawing stopped.
-/

namespace Toolpath.Printout

open Scene Editor

structure Summary where
  lines : Nat
  nodes : Nat
  clusters : Nat
  overlaps : Nat
  segments : Nat
  bounds : Option Bounds
  aborted : Option Abort
  deriving DecidableEq, Repr

namespace Summary

def of (s : Session) : Summary :=
  let p := s.analysis.projection
  { lines := s.buffer.lineCount
    nodes := s.analysis.trace.nodes.length
    clusters := p.clusters.length
    overlaps := p.clusters.countP Cluster.isOverlap
    segments := p.segments.length
    bounds := p.bounds
    aborted := p.aborted }

def extentText (axis : Char) (e : Extent) : Text :=
  axis :: ' ' :: Number.fixed e.least 2 ++ ['.', '.'] ++ Number.fixed e.greatest 2

def boundsText (b : Bounds) : Text :=
  "Bounds:   ".toList ++
    Text.join [' ', ' '] [extentText 'X' b.x, extentText 'Y' b.y, extentText 'Z' b.z]

def text (s : Summary) : Text :=
  Text.unlines (["Lines:    ".toList ++ Text.ofNat s.lines, "Nodes:    ".toList ++ Text.ofNat s.nodes,
    "Clusters: ".toList ++ Text.ofNat s.clusters ++ " (".toList ++ Text.ofNat s.overlaps ++
      " overlapping)".toList,
    "Segments: ".toList ++ Text.ofNat s.segments] ++ (s.bounds.map boundsText).toList ++
    (s.aborted.map fun a => Abort.notice ++ " (line ".toList ++ Text.ofNat (a.line + 1) ++ [')']).toList)

def boundsJson (b : Bounds) : Json :=
  .object [("min_x".toList, .ofFloat b.x.least), ("max_x".toList, .ofFloat b.x.greatest),
    ("min_y".toList, .ofFloat b.y.least), ("max_y".toList, .ofFloat b.y.greatest),
    ("min_z".toList, .ofFloat b.z.least), ("max_z".toList, .ofFloat b.z.greatest)]

def abortJson (a : Abort) : Json := .object [("line".toList, .ofNat a.line), ("notice".toList, .string Abort.notice)]

def toJson (s : Summary) : Json :=
  .object [("lines".toList, .ofNat s.lines), ("nodes".toList, .ofNat s.nodes),
    ("clusters".toList, .ofNat s.clusters), ("overlaps".toList, .ofNat s.overlaps),
    ("segments".toList, .ofNat s.segments), ("bounds".toList, .ofOption boundsJson s.bounds),
    ("aborted".toList, .ofOption abortJson s.aborted)]

end Summary

end Toolpath.Printout
