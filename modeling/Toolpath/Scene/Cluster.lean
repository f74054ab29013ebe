import Toolpath.Entries
import Toolpath.Scene.Screen

/-!
Clusters: the nodes that are drawn at one pixel. Clusters are kept in the order in which their pixels
first appear, and members in ascending order.
-/

namespace Toolpath.Scene

structure Dot where
  node : Nat
  screen : Point
  z : Float
  deriving DecidableEq, Repr

structure Pixel where
  x : Int
  y : Int
  deriving DecidableEq, Repr

namespace Pixel

def coordinate (v : Float) : Int :=
  -- The half is added in doubles.
  match Number.exact (v + Float.ofScientific 5 true 1) with
  | .finite d => max (-0x8000000000000000) (min 0x7FFFFFFFFFFFFFFF d.floor)
  | .infinite true => -0x8000000000000000
  | .infinite false => 0x7FFFFFFFFFFFFFFF
  | .nan => 0

def ofPoint? (p : Point) : Option Pixel :=
  if p.isFinite then some ⟨coordinate p.x, coordinate p.y⟩ else none

def center (p : Pixel) : Point := ⟨Float.ofInt p.x, Float.ofInt p.y⟩

def display (p : Pixel) : Text :=
  let part (n : Int) := Number.signed (n < 0) (Text.ofNat n.natAbs)
  part p.x ++ ',' :: part p.y

end Pixel

structure Cluster where
  key : Pixel
  center : Point
  members : List Nat
  deriving DecidableEq, Repr

namespace Cluster

def label (c : Cluster) : Nat := c.members.headD 0

def isOverlap (c : Cluster) : Bool := 1 < c.members.length

def badge? (c : Cluster) : Option Text :=
  if c.isOverlap then some ('+' :: Text.ofNat (c.members.length - 1)) else none

def push (c : Cluster) (node : Nat) : Cluster := { c with members := c.members ++ [node] }

@[simp] theorem key_push (c : Cluster) (node : Nat) : (c.push node).key = c.key := rfl

@[simp] theorem members_push (c : Cluster) (node : Nat) : (c.push node).members = c.members ++ [node] := rfl

def insertAscending (n : Nat) : List Nat → List Nat
  | [] => [n]
  | m :: r => if n ≤ m then n :: m :: r else m :: insertAscending n r

def ascending (ns : List Nat) : List Nat := ns.foldr insertAscending []

end Cluster

-- The clusters so far, and the place of the cluster of each pixel among them.
structure Grouping where
  clusters : List Cluster
  places : Entries Pixel Nat
  deriving DecidableEq, Repr

namespace Grouping

def empty : Grouping := ⟨[], []⟩

def put (g : Grouping) (key : Pixel) (node : Nat) : Grouping :=
  match g.places.lookup key with
  | some i => { g with clusters := g.clusters.modify i (·.push node) }
  | none => ⟨g.clusters ++ [⟨key, key.center, [node]⟩], g.places.insert key g.clusters.length⟩

def add (g : Grouping) (d : Dot) : Grouping :=
  match Pixel.ofPoint? d.screen with
  | some key => g.put key d.node
  | none => g

end Grouping

namespace Cluster

def ofDots (dots : List Dot) : List Cluster :=
  (dots.foldl Grouping.add .empty).clusters.map fun c => { c with members := ascending c.members }

end Cluster

end Toolpath.Scene
