import Toolpath.Table.Row
import Toolpath.Json.Basic

/-!
The motion table in columns, and as a JSON value.
-/

namespace Toolpath.Printout

open Program Table

def padRight (width : Nat) (t : Text) : Text := t ++ List.replicate (width - t.length) ' '

def columns (index line command x y z feed : Text) : Text :=
  let right (width : Nat) (t : Text) := Number.padLeft width ' ' t
  Text.join [' '] [right 4 index, right 5 line, padRight 3 command, right 10 x, right 10 y, right 10 z,
    right 7 feed]

def cell (places : Nat) : Option Float → Text
  | some v => Number.fixed v places
  | none => ['-']

def rowText (r : Row) : Text :=
  columns (Text.ofNat r.index) ((r.line.map fun l => Text.ofNat (l + 1)).getD ['-']) r.command.mnemonic
    (cell 2 r.x) (cell 2 r.y) (cell 2 r.z) (cell 0 r.feed)

def tableText (rows : List Row) : Text :=
  Text.unlines (columns ['#'] "Line".toList "Cmd".toList ['X'] ['Y'] ['Z'] ['F'] :: rows.map rowText)

def motionName : Motion → Text
  | .rapid => "Rapid".toList
  | .linear => "Linear".toList

def rowJson (r : Row) : Json :=
  .object [("index".toList, .ofNat r.index), ("line".toList, .ofOption .ofNat r.line),
    ("command".toList, .string (motionName r.command)), ("x".toList, .ofOption .ofFloat r.x),
    ("y".toList, .ofOption .ofFloat r.y), ("z".toList, .ofOption .ofFloat r.z),
    ("feed".toList, .ofOption .ofFloat r.feed)]

def tableJson (rows : List Row) : Json := .ofList rowJson rows

end Toolpath.Printout
