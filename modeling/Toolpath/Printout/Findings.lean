import Toolpath.Program.Check
import Toolpath.Json.Basic

/-!
The outcome of a check, as a text and as a JSON value.
-/

namespace Toolpath.Program

def Severity.name : Severity → Text
  | .error => "Error".toList
  | .warning => "Warning".toList
  | .information => "Information".toList

end Toolpath.Program

namespace Toolpath.Printout

open Program

def findingsText (r : Report) : Text := Text.unlines r.messages

def diagnosticJson (d : Diagnostic) : Json :=
  .object [("line".toList, .ofNat d.line), ("severity".toList, .string d.severity.name),
    ("message".toList, .string d.message)]

def findingsJson (r : Report) : Json :=
  let report := match r with
    | .clean => Json.string "Clean".toList
    | .issues found => .object [("Issues".toList, .ofList diagnosticJson found)]
  .object [("clean".toList, .bool r.isClean), ("report".toList, report),
    ("messages".toList, .ofList Json.string r.messages)]

end Toolpath.Printout
