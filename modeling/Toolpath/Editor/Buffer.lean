import Toolpath.Text.Basic

/-!
The document text with its lines. Lines end at line feeds only, so that line numbers are those of the
program's statements.
-/

namespace Toolpath.Editor

structure Buffer where
  text : Text
  deriving DecidableEq, Repr

structure Span where
  start : Nat
  stop : Nat
  deriving DecidableEq, Repr

namespace Buffer

def empty : Buffer := ⟨[]⟩

def size (b : Buffer) : Nat := b.text.length

def lineCount (b : Buffer) : Nat := b.text.count '\n' + 1

def throughFeed : Nat → Text → Nat
  | 0, _ => 0
  | _ + 1, [] => 0
  | n + 1, c :: r => (if c = '\n' then throughFeed n r else throughFeed (n + 1) r) + 1

def lineStart (b : Buffer) (line : Nat) : Nat := throughFeed line b.text

def slice (b : Buffer) (s : Span) : Text := (b.text.take s.stop).drop s.start

def fullLine (b : Buffer) (line : Nat) : Text := b.slice ⟨b.lineStart line, b.lineStart (line + 1)⟩

def lineSpan? (b : Buffer) (line : Nat) : Option Span :=
  if line < b.lineCount then
    let start := b.lineStart line
    let stop := start + (b.fullLine line).length
    some ⟨start, if (b.fullLine line).getLast? = some '\n' then stop - 1 else stop⟩
  else none

def line? (b : Buffer) (line : Nat) : Option Text := (b.lineSpan? line).map b.slice

def replace (b : Buffer) (s : Span) (w : Text) : Buffer :=
  let start := min s.start b.size
  let stop := max (min s.stop b.size) start
  ⟨b.text.take start ++ w ++ b.text.drop stop⟩

def lineColumn (b : Buffer) (offset : Nat) : Nat × Nat :=
  let offset := min offset b.size
  let line := (b.text.take offset).count '\n'
  (line, offset - b.lineStart line)

def offset (b : Buffer) (line column : Nat) : Nat :=
  -- The line feed belongs to its line.
  let line := min line (b.lineCount - 1)
  b.lineStart line + min column (b.fullLine line).length

end Buffer

end Toolpath.Editor
