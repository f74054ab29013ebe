import Toolpath.Settings.Error
import Toolpath.Json.Reader
import Toolpath.Toml.Reader

/-!
Reading a configuration. Both formats give values that are taken apart in the same way: a section is a
table of its settings or the list of them in order, what is not given keeps its default, and settings
that are not known are passed over.
-/

namespace Toolpath.Settings

open Scene Editor

structure Values (α : Type) where
  real? : α → Option Float
  count? : α → Option Nat
  isNull : α → Bool
  settings? : List Text → α → Option (List (Option α))

namespace Values

def once? {α : Type} (fields : List (Text × α)) (name : Text) : Option (Option α) :=
  match fields.filter (·.1 = name) with
  | [] => some none
  | [(_, a)] => some (some a)
  | _ => none

def json : Values Json where
  -- In JSON a list has at most as many values as there are names.
  real?
    | .number written => Json.floatValue? written
    | _ => none
  count?
    | .number written => Json.natValue? written
    | _ => none
  isNull
    | .null => true
    | _ => false
  settings? names
    | .object fields => names.mapM (once? fields)
    | .array items =>
      if items.length ≤ names.length then some ((List.range names.length).map (items[·]?)) else none
    | _ => none

def toml : Values Toml.Node where
  -- In TOML a list may be longer, and a moment counts as a table without known names.
  real?
    | .integer n => some (Float.ofInt n)
    | .float x => some x
    | _ => none
  count?
    | .integer n => if 0 ≤ n then some n.toNat else none
    | _ => none
  isNull _ := false
  settings? names
    | .table _ fields | .inline fields => some (names.map (List.lookup · fields))
    | .array items => some ((List.range names.length).map (items[·]?))
    | .moment => some (names.map fun _ => none)
    | _ => none

variable {α : Type} (v : Values α)

def get? {β : Type} (read : α → Option β) (default : β) : Option α → Option β
  | none => some default
  | some a => read a

def offset? (a : α) : Option (Option Float) := if v.isNull a then some none else (v.real? a).map some

end Values

def View.names : List Text :=
  ["scale".toList, "canvas_width".toList, "canvas_height".toList, "offset_x".toList, "offset_y".toList]

def radiusNames : List Text :=
  ["hit_radius".toList, "ring_radius".toList, "sub_node_hit_radius".toList, "center_hit_radius".toList]

def editorNames : List Text := ["history_depth".toList]

def Config.names : List Text := ["view".toList, "interaction".toList, "editor".toList]

section

variable {α : Type} (v : Values α)

def readView? (a : α) : Option View := do
  let [scale, width, height, x, y] ← v.settings? View.names a | none
  let d := View.default
  return ⟨← Values.get? v.real? d.scale scale, ← Values.get? v.real? d.canvasWidth width,
    ← Values.get? v.real? d.canvasHeight height, ← Values.get? v.offset? d.offsetX x,
    ← Values.get? v.offset? d.offsetY y⟩

def readRadii? (a : α) : Option Radii := do
  let [hit, ring, subNode, center] ← v.settings? radiusNames a | none
  let d := Radii.default
  return ⟨← Values.get? v.real? d.hit hit, ← Values.get? v.real? d.ring ring,
    ← Values.get? v.real? d.subNode subNode, ← Values.get? v.real? d.center center⟩

def readDepth? (a : α) : Option Nat := do
  let [depth] ← v.settings? editorNames a | none
  Values.get? v.count? History.defaultDepth depth

def readConfig? (a : α) : Option Config := do
  let [view, radii, editor] ← v.settings? Config.names a | none
  let d := Config.default
  return ⟨← Values.get? (readView? v) d.view view, ← Values.get? (readRadii? v) d.radii radii,
    ← Values.get? (readDepth? v) d.historyDepth editor⟩

end

def Config.parse (f : Format) (t : Text) : Except SettingsError Config :=
  match f with
  | .json =>
    match (Json.read? t).bind (readConfig? Values.json) with
    | some c => .ok c
    | none => .error .unreadableJson
  | .toml =>
    match (Toml.read? t).bind fun fields => readConfig? Values.toml (.inline fields) with
    | some c => .ok c
    | none => .error .unreadableToml

end Toolpath.Settings
