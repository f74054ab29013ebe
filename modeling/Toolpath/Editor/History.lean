import Toolpath.Text.Basic

/-!
Undo and redo by whole texts. A new text forgets what could be redone; of the texts that can be
undone only the last ones are kept.
-/

namespace Toolpath.Editor

structure History where
  current : Text
  -- earlier texts, the latest first
  past : List Text
  -- undone texts, the next one first
  future : List Text
  depth : Nat
  deriving DecidableEq, Repr

namespace History

def defaultDepth : Nat := 50

-- Room for all `depth` texts would be reserved here. What happens where memory does not have that room is left
-- out: any depth gives a history, of at least one step.
def new (t : Text) (depth : Nat) : History := ⟨t, [], [], max depth 1⟩

def push (h : History) : List Text := (h.current :: h.past).take h.depth

def record (h : History) (t : Text) : Bool × History :=
  if t = h.current then (false, h) else (true, { h with current := t, past := h.push, future := [] })

def undo? (h : History) : Option History :=
  match h.past with
  | [] => none
  | t :: past => some { h with current := t, past, future := h.current :: h.future }

def redo? (h : History) : Option History :=
  match h.future with
  | [] => none
  | t :: future => some { h with current := t, past := h.push, future }

def reset (h : History) (t : Text) : History := ⟨t, [], [], h.depth⟩

end History

end Toolpath.Editor
