import Toolpath.Editor.Session

/-!
The configuration: how the machine is drawn, the radii of the pointer, and the depth of the history.
`Config.validate` says which values can be worked with.
-/

namespace Toolpath.Settings

open Scene Editor

structure View where
  -- An offset that is not given is the centre of the canvas.
  scale : Float
  canvasWidth : Float
  canvasHeight : Float
  offsetX : Option Float
  offsetY : Option Float
  deriving DecidableEq, Repr

namespace View

def default : View := ⟨Float.ofNat 5, Float.ofNat 800, Float.ofNat 600, none, none⟩

def offsets (v : View) : Float × Float := (v.offsetX.getD (v.canvasWidth / 2), v.offsetY.getD (v.canvasHeight / 2))

end View

structure Config where
  view : View
  radii : Radii
  historyDepth : Nat
  deriving DecidableEq, Repr

structure InvalidSetting where
  key : Text
  reason : Text
  deriving DecidableEq, Repr

namespace InvalidSetting

def message (e : InvalidSetting) : Text := "Invalid setting '".toList ++ e.key ++ "': ".toList ++ e.reason

end InvalidSetting

structure Rule where
  key : String
  reason : String
  holds : Bool

namespace Config

def default : Config := ⟨.default, .default, History.defaultDepth⟩

def isPositive (x : Float) : Bool := Float.ofNat 0 < x

-- The two lengths of the canvas share a key, and lengths and radii may be infinite.
def rules (c : Config) : List Rule := [
  ⟨"view.scale", "must be finite and > 0", c.view.scale.isFinite && isPositive c.view.scale⟩,
  ⟨"view.canvas_width", "canvas dimensions must be > 0",
    isPositive c.view.canvasWidth && isPositive c.view.canvasHeight⟩,
  ⟨"view.offset_x", "must be finite", c.view.offsetX.all Float.isFinite⟩,
  ⟨"view.offset_y", "must be finite", c.view.offsetY.all Float.isFinite⟩,
  ⟨"interaction.hit_radius", "must be > 0", isPositive c.radii.hit⟩,
  ⟨"interaction.ring_radius", "must be > 0", isPositive c.radii.ring⟩,
  ⟨"interaction.sub_node_hit_radius", "must be > 0", isPositive c.radii.subNode⟩,
  ⟨"interaction.center_hit_radius", "must be > 0", isPositive c.radii.center⟩,
  ⟨"editor.history_depth", "must be > 0", 0 < c.historyDepth⟩]

def validate (c : Config) : Except InvalidSetting Unit :=
  match c.rules.find? fun r => !r.holds with
  | some r => .error ⟨r.key.toList, r.reason.toList⟩
  | none => .ok ()

theorem validate_eq_ok_iff (c : Config) : c.validate = .ok () ↔ ∀ r ∈ c.rules, r.holds = true := by
  rw [validate]
  split
  · rename_i r h
    have hr := List.find?_some h
    have hm := List.mem_of_find?_eq_some h
    simp only [reduceCtorEq, false_iff]
    intro ha
    simp [ha r hm] at hr
  · rename_i h
    simpa using h

def session (c : Config) : SessionConfig :=
  let (x, y) := c.view.offsets
  ⟨⟨c.view.scale, x, y⟩, c.radii, c.historyDepth⟩

end Config

end Toolpath.Settings
