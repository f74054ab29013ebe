import Toolpath.Table.Row

/-!
The table as it is edited: its rows and the selected one.
-/

namespace Toolpath.Table

open Program

structure Model where
  rows : List Row
  selected : Option Nat
  deriving DecidableEq, Repr

structure RowOutOfRange where
  row : Nat
  total : Nat
  deriving DecidableEq, Repr

namespace Model

def empty : Model := ⟨[], none⟩

def ofRows (rows : List Row) : Model := ⟨rows, none⟩

def ofText (t : Text) : Model := ofRows (toRows t)

def size (m : Model) : Nat := m.rows.length

def clamp (m : Model) : Model :=
  { m with selected := if m.rows.isEmpty then none else m.selected.map (min · (m.rows.length - 1)) }

def refresh (m : Model) (t : Text) : Model := clamp { m with rows := toRows t }

def select (m : Model) (row : Nat) : Option Nat × Model :=
  match m.rows[row]? with
  | none => (none, m)
  | some r => (r.line, { m with selected := some row })

def zero : Float := Float.ofNat 0

def addRow (m : Model) : Nat × Model :=
  let index := m.rows.length
  let row : Row := match m.rows.getLast? with
    | some r => ⟨index, none, .linear, some (r.x.getD zero), some (r.y.getD zero), some (r.z.getD zero), r.feed⟩
    | none => ⟨index, none, .linear, some zero, some zero, some zero, none⟩
  (index, ⟨m.rows ++ [row], some index⟩)

def renumber (rows : List Row) : List Row := rows.mapIdx fun i r => { r with index := i }

def deleteSelected (m : Model) : Bool × Model :=
  match m.selected with
  | none => (false, m)
  | some i =>
    if i < m.rows.length then (true, clamp { m with rows := renumber (m.rows.eraseIdx i) })
    else (false, m)

def cellValue (typed : Text) : Option Float :=
  let typed := Text.trim typed
  if typed.isEmpty then none else some (Number.parseNumber typed)

def updateCell (m : Model) (row : Nat) (f : Field) (typed : Text) : Except RowOutOfRange Model :=
  if row < m.rows.length then .ok { m with rows := m.rows.modify row (·.set f (cellValue typed)) }
  else .error ⟨row, m.rows.length⟩

def toText (m : Model) (previous : Text) : Text := Table.ofRows m.rows previous

end Model

end Toolpath.Table
