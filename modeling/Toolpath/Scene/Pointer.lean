import Toolpath.Scene.Projection
import Toolpath.Number.Angle

/-!
The pointer over the clusters: what it hits, the ring of nodes that an overlapping cluster is opened
into, and what a click does. At most one cluster is open.
-/

namespace Toolpath.Scene

structure Radii where
  hit : Float
  ring : Float
  subNode : Float
  center : Float
  deriving DecidableEq, Repr

def Radii.default : Radii := ⟨Float.ofNat 5, Float.ofNat 30, Float.ofNat 12, Float.ofNat 8⟩

inductive Hit
  | node (index : Nat)
  | cluster (index : Nat)
  deriving DecidableEq, Repr

def nearer (best : Option (Nat × Float)) (i : Nat) (distance : Float) : Option (Nat × Float) :=
  match best with
  | none => some (i, distance)
  | some (j, d) => if distance < d then some (i, distance) else some (j, d)

def nearest? (p : Point) (clusters : List Cluster) (radius : Float) : Option Nat :=
  (clusters.zipIdx.foldl (fun best (c, i) =>
    let d := p.distance c.center
    if d ≤ radius then nearer best i d else best) none).map (·.1)

def resolveHit (p : Point) (clusters : List Cluster) (radius : Float) : Option Hit := do
  let i ← nearest? p clusters radius
  let c ← clusters[i]?
  return if c.isOverlap then .cluster i else .node c.label

theorem resolveHit_eq_some_iff {p : Point} {clusters : List Cluster} {radius : Float} {x : Hit} :
    resolveHit p clusters radius = some x ↔ ∃ i c, nearest? p clusters radius = some i ∧ clusters[i]? = some c ∧
      (if c.isOverlap then .cluster i else .node c.label) = x := by
  simp only [resolveHit, Option.bind_eq_bind, Option.bind_eq_some_iff]
  constructor
  · rintro ⟨i, hi, c, hc, hx⟩
    exact ⟨i, c, hi, hc, Option.some.inj hx⟩
  · rintro ⟨i, c, hi, hc, hx⟩
    exact ⟨i, hi, c, hc, congrArg some hx⟩

structure SubNode where
  node : Nat
  position : Point
  deriving DecidableEq, Repr

def turn : Float := Float.ofScientific 6283185307179586 true 15

def ring (c : Cluster) (radius : Float) : List SubNode :=
  let step := turn / Float.ofNat c.members.length
  c.members.zipIdx.map fun (n, i) =>
    let a := Float.ofNat i * step
    ⟨n, c.center.x + Number.cos a * radius, c.center.y + Number.sin a * radius⟩

structure Expanded where
  key : Pixel
  center : Point
  subNodes : List SubNode
  deriving DecidableEq, Repr

inductive Click
  | selectNode (node : Nat)
  | expanded (label members : Nat)
  | collapsed
  | nothing
  deriving DecidableEq, Repr

structure Pointer where
  radii : Radii
  expanded : Option Expanded
  deriving DecidableEq, Repr

namespace Pointer

def new (radii : Radii) : Pointer := ⟨radii, none⟩

def hit (p : Pointer) (spot : Point) (clusters : List Cluster) : Option Hit :=
  resolveHit spot clusters p.radii.hit

def expand (p : Pointer) (c : Cluster) : Pointer :=
  { p with expanded := some ⟨c.key, c.center, ring c p.radii.ring⟩ }

def collapse (p : Pointer) : Bool × Pointer := (p.expanded.isSome, { p with expanded := none })

def retain (p : Pointer) (clusters : List Cluster) : Pointer :=
  match p.expanded with
  | none => p
  | some e =>
    match clusters.find? fun c => c.key = e.key && c.isOverlap with
    | some c => p.expand c
    | none => { p with expanded := none }

def hitCluster? (clusters : List Cluster) : Hit → Option Cluster
  | .cluster i => clusters[i]?
  | .node n => clusters.find? fun c => c.members.head? = some n

def move (p : Pointer) (spot : Point) (clusters : List Cluster) : Bool × Pointer :=
  match p.expanded with
  | none => (false, p)
  | some e =>
    match (p.hit spot clusters).bind (hitCluster? clusters) with
    | some c => if c.key = e.key then (false, p) else (true, { p with expanded := none })
    | none => (false, p)

def subNodeAt? (p : Pointer) (spot : Point) : Option Nat := do
  let e ← p.expanded
  let s ← e.subNodes.find? fun s => spot.distance s.position ≤ p.radii.subNode
  return s.node

def clickClosed (p : Pointer) (spot : Point) (clusters : List Cluster) : Click × Pointer :=
  match p.hit spot clusters with
  | some (.node n) => (.selectNode n, p)
  | some (.cluster i) =>
    match clusters[i]? with
    | some c => (.expanded c.label c.members.length, p.expand c)
    | none => (.nothing, p)
  | none => (.nothing, p)

def click (p : Pointer) (spot : Point) (clusters : List Cluster) : Click × Pointer :=
  -- A click beside the open ring closes it and then counts as a click on the scene.
  match p.expanded with
  | none => p.clickClosed spot clusters
  | some e =>
    if spot.distance e.center ≤ p.radii.center then (.collapsed, { p with expanded := none })
    else match p.subNodeAt? spot with
      | some n => (.selectNode n, p)
      | none =>
        match clickClosed { p with expanded := none } spot clusters with
        | (.nothing, p) => (.collapsed, p)
        | r => r

end Pointer

end Toolpath.Scene
