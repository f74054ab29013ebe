import Toolpath.Files.Disk

/-!
Reading a program from a file. A byte order mark at the start is dropped, and bytes that are no text are
replaced.
-/

namespace Toolpath.Files

open Text.Utf8 (Bytes)

inductive Encoding
  | utf8Mark
  | utf8
  | unknown
  deriving DecidableEq, Repr

def byteOrderMark : Bytes := [0xEF, 0xBB, 0xBF]

namespace Encoding

def detect (b : Bytes) : Encoding :=
  -- What follows the mark is not looked at.
  if byteOrderMark.isPrefixOf b then utf8Mark
  else if (Text.Utf8.decode? b).isSome then utf8
  else unknown

end Encoding

def programText (b : Bytes) : Text :=
  match Encoding.detect b with
  | .utf8Mark => Text.Utf8.decodeLossy (b.drop byteOrderMark.length)
  | _ => Text.Utf8.decodeLossy b

inductive ReadError
  | missing (p : Path)
  | notFile (p : Path)
  | failed (p : Path) (e : DiskError)
  deriving DecidableEq, Repr

def ReadError.message : ReadError → Text
  | missing p => "File does not exist: ".toList ++ p
  | notFile p => "Path is not a file: ".toList ++ p
  | failed p e => "Failed to read ".toList ++ p ++ ": ".toList ++ e.message

variable {m : Type → Type} [Monad m]

def readProgramBytes (disk : Disk m) (p : Path) : m (Except ReadError Bytes) := do
  match ← disk.kind? p with
  | none => return .error (.missing p)
  | some .folder => return .error (.notFile p)
  | some .file => return (← disk.read p).mapError (.failed p)

def readProgram (disk : Disk m) (p : Path) : m (Except ReadError Text) :=
  return (← readProgramBytes disk p).map programText

end Toolpath.Files
