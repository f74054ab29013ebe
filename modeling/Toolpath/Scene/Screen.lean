import Toolpath.Program.Position

/-!
The screen: points in pixels with `y` growing downwards, the map from the machine to them, and the
extent of positions.
-/

namespace Toolpath.Scene

structure Point where
  x : Float
  y : Float
  deriving DecidableEq, Repr

namespace Point

def isFinite (p : Point) : Bool := p.x.isFinite && p.y.isFinite

def distance (p q : Point) : Float := Number.hypot (p.x - q.x) (p.y - q.y)

def same (p q : Point) : Bool := p.x == q.x && p.y == q.y

end Point

structure Transform where
  scale : Float
  offsetX : Float
  offsetY : Float
  deriving DecidableEq, Repr

namespace Transform

def centered (width height scale : Float) : Transform := ⟨scale, width / 2, height / 2⟩

def default : Transform := centered (Float.ofNat 800) (Float.ofNat 600) (Float.ofNat 5)

def toScreen (t : Transform) (p : Position) : Point := ⟨p.x * t.scale + t.offsetX, -p.y * t.scale + t.offsetY⟩

def toMachine (t : Transform) (p : Point) : Float × Float :=
  ((p.x - t.offsetX) / t.scale, -(p.y - t.offsetY) / t.scale)

end Transform

structure Extent where
  least : Float
  greatest : Float
  deriving DecidableEq, Repr

namespace Extent

-- the greatest double below, the least one above
def empty : Extent := ⟨Float.ofBits 0x7FEFFFFFFFFFFFFF, Float.ofBits 0xFFEFFFFFFFFFFFFF⟩

def insert (e : Extent) (v : Float) : Extent :=
  ⟨if v < e.least then v else e.least, if e.greatest < v then v else e.greatest⟩

def isProper (e : Extent) : Bool := e.least ≤ e.greatest

end Extent

structure Bounds where
  x : Extent
  y : Extent
  z : Extent
  deriving DecidableEq, Repr

namespace Bounds

def empty : Bounds := ⟨.empty, .empty, .empty⟩

def update (b : Bounds) (p : Position) : Bounds :=
  if p.isFinite then ⟨b.x.insert p.x, b.y.insert p.y, b.z.insert p.z⟩ else b

def isValid (b : Bounds) : Bool := b.x.isProper && b.y.isProper && b.z.isProper

end Bounds

end Toolpath.Scene
