import Toolpath.Scene.Cluster

/-!
The drawn scene of a program: an edge and a dot per node up to the first line that asks for relative
coordinates, the clusters of the dots, and a marker per cluster.
-/

namespace Toolpath.Program

inductive Fault
  | relativeCoordinates (line : Nat)
  | invalidExpression (pattern reason : Text)
  | rowOutOfRange (row total : Nat)
  deriving DecidableEq, Repr

def Fault.message : Fault → Text
  | relativeCoordinates line => "Relative coordinates (G91) unsupported at line ".toList ++ Text.ofNat line
  | invalidExpression pattern reason =>
    "Invalid expression '".toList ++ pattern ++ "': ".toList ++ reason
  | rowOutOfRange row total =>
    "Row ".toList ++ Text.ofNat row ++ " out of range (rows: ".toList ++ Text.ofNat total ++ [')']

def Motion.color : Motion → Text
  | .rapid => "gray".toList
  | .linear => "blue".toList

def Motion.isDashed : Motion → Bool
  | .rapid => true
  | .linear => false

end Toolpath.Program

namespace Toolpath.Scene

open Program

structure Segment where
  start : Point
  finish : Point
  motion : Motion
  node : Nat
  deriving DecidableEq, Repr

structure Marker where
  position : Point
  label : Text
  badge : Option Text
  overlap : Bool
  cluster : Nat
  deriving DecidableEq, Repr

structure Abort where
  line : Nat
  deriving DecidableEq, Repr

namespace Abort

def notice : Text := "Relative coordinates (G91) are not supported, use absolute coordinates (G90)".toList

def fault (a : Abort) : Fault := .relativeCoordinates a.line

end Abort

structure Projection where
  dots : List Dot
  clusters : List Cluster
  segments : List Segment
  markers : List Marker
  bounds : Option Bounds
  aborted : Option Abort
  deriving DecidableEq, Repr

def drawn (t : Trace) : List Node :=
  match t.relativeLine with
  | none => t.nodes
  | some line => t.nodes.takeWhile fun n => n.line ≤ line

def Dot.ofNode (f : Transform) (n : Node) : Dot := ⟨n.index, f.toScreen n.position, n.position.z⟩

def segmentsFrom (f : Transform) (p : Position) : List Node → List Segment
  | [] => []
  | n :: r => ⟨f.toScreen p, f.toScreen n.position, n.motion, n.index⟩ :: segmentsFrom f n.position r

def Marker.ofCluster? (dots : List Dot) (c : Cluster) (i : Nat) : Option Marker :=
  (dots.find? (·.node = c.label)).map fun d =>
    ⟨d.screen, Text.ofNat c.label, c.badge?, c.isOverlap, i⟩

def project (t : Trace) (f : Transform) : Projection :=
  let nodes := drawn t
  let dots := nodes.map (Dot.ofNode f)
  let clusters := Cluster.ofDots dots
  let bounds := nodes.foldl (fun b n => b.update n.position) Bounds.empty
  { dots
    clusters
    segments := segmentsFrom f .origin nodes
    markers := clusters.zipIdx.filterMap fun (c, i) => Marker.ofCluster? dots c i
    bounds := if bounds.isValid then some bounds else none
    aborted := t.relativeLine.map Abort.mk }

namespace Projection

def clusterOf? (p : Projection) (node : Nat) : Option Cluster := p.clusters.find? (·.members.contains node)

def clusterAt? (p : Projection) (key : Pixel) : Option Cluster := p.clusters.find? (·.key = key)

end Projection

end Toolpath.Scene
