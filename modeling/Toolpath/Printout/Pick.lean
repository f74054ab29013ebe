import Toolpath.Editor.Session
import Toolpath.Json.Basic

/-!
What a click on the canvas comes to.
-/

namespace Toolpath.Printout

open Scene Editor

inductive Pick
  | selected (node : Option Nat) (line : Nat) (content : Text)
  | expanded (label : Nat) (members : List Nat)
  | nothing
  deriving DecidableEq, Repr

namespace Pick

def ofClick (s : Session) (p : Point) : Pick × Session :=
  match s.click p with
  | (some sel, s) => (selected sel.node sel.line ((s.buffer.line? sel.line).getD []), s)
  | (none, s) =>
    (match s.pointer.expanded with
      | some e =>
        let members := e.subNodes.map (·.node)
        expanded (members.headD 0) members
      | none => nothing, s)

def text : Pick → Text
  | selected _ line content => "Line ".toList ++ Text.ofNat (line + 1) ++ ": ".toList ++ content
  | expanded label members =>
    "Cluster ".toList ++ Text.ofNat label ++ " expanded (+".toList ++ Text.ofNat (members.length - 1) ++
      "): nodes ".toList ++ Text.join [',', ' '] (members.map Text.ofNat)
  | nothing => "Nothing at this point".toList

def kind (name : String) (fields : List (Text × Json)) : Json :=
  .object (("kind".toList, .string name.toList) :: fields)

def toJson : Pick → Json
  | selected node line content => kind "selected" [("node_index".toList, .ofOption .ofNat node),
      ("line".toList, .ofNat line), ("text".toList, .string content)]
  | expanded label members => kind "expanded" [("label".toList, .ofNat label),
      ("members".toList, .ofList .ofNat members)]
  | nothing => kind "nothing" []

end Pick

end Toolpath.Printout
