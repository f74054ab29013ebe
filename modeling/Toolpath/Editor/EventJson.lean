import Toolpath.Editor.Event
import Toolpath.Json.Reader

/-!
Events as JSON values: an object whose only key is the category, around an object whose only key is the
kind of event. A kind without fields is written as its bare name.
-/

namespace Toolpath.Editor

def Source.ofName? (t : Text) : Option Source := [Source.user, .history, .core].find? (·.name = t)

namespace Event

def tagged (name : String) (j : Json) : Json := .object [(name.toList, j)]

def line (n : Nat) : Json := .object [("line".toList, .ofNat n)]

def toJson : Event → Json
  | lineSelected n => tagged "Editor" (tagged "LineSelected" (line n))
  | textChanged source nodes => tagged "Editor" (tagged "TextChanged" (.object
      [("source".toList, .string source.name), ("nodes".toList, .ofNat nodes)]))
  | relativeModeAborted n => tagged "Visualizer" (tagged "RelativeModeAborted" (line n))
  | clusterExpanded label members => tagged "Visualizer" (tagged "ClusterExpanded" (.object
      [("label".toList, .ofNat label), ("members".toList, .ofNat members)]))
  | clusterCollapsed => tagged "Visualizer" (.string "ClusterCollapsed".toList)
  | checkCompleted issues => tagged "Diagnostics" (tagged "CheckCompleted" (.object
      [("issues".toList, .ofNat issues)]))

def variant? : Json → Option (String × Json)
  | .string t => some (String.ofList t, .null)
  | .object [(name, j)] => some (String.ofList name, j)
  | _ => none

def field? (name : String) : Json → Option Json
  | .object fields => fields.reverse.lookup name.toList
  | _ => none

def count? (name : String) (j : Json) : Option Nat := do
  match ← field? name j with
  | .number written => Json.natValue? written
  | _ => none

def source? (j : Json) : Option Source := do
  let (name, .null) ← variant? (← field? "source" j) | none
  Source.ofName? name.toList

def ofJson? : Json → Option Event
  | .object [(category, j)] => do
    let (kind, fields) ← variant? j
    match String.ofList category, kind with
    | "Editor", "LineSelected" => return lineSelected (← count? "line" fields)
    | "Editor", "TextChanged" => return textChanged (← source? fields) (← count? "nodes" fields)
    | "Visualizer", "RelativeModeAborted" => return relativeModeAborted (← count? "line" fields)
    | "Visualizer", "ClusterExpanded" =>
      return clusterExpanded (← count? "label" fields) (← count? "members" fields)
    | "Visualizer", "ClusterCollapsed" => match fields with
      | .null => return clusterCollapsed
      | _ => none
    | "Diagnostics", "CheckCompleted" => return checkCompleted (← count? "issues" fields)
    | _, _ => none
  | _ => none

end Event

end Toolpath.Editor
