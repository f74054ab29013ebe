import Toolpath.Files.Path
import Toolpath.Text.Utf8

/-!
What the program asks of a file system, with the ways in which it can be refused. Everything that works
on files is written against `Disk`, so that it runs on a real file system and on a `Directory` alike.
-/

namespace Toolpath.Files

open Text.Utf8 (Bytes)

inductive DiskError
  | notFound
  | notFolder
  | isFolder
  | alreadyExists
  | invalidName
  | invalidText
  | other (reason : Text)
  deriving DecidableEq, Repr

def DiskError.message : DiskError → Text
  | notFound => "No such file or directory (os error 2)".toList
  | notFolder => "Not a directory (os error 20)".toList
  | isFolder => "Is a directory (os error 21)".toList
  | alreadyExists => "File exists (os error 17)".toList
  | invalidName => "file name contained an unexpected NUL byte".toList
  | invalidText => "stream did not contain valid UTF-8".toList
  | other reason => reason

inductive Kind
  | file
  | folder
  deriving DecidableEq, Repr

structure Disk (m : Type → Type) where
  kind? : Path → m (Option Kind)
  read : Path → m (Except DiskError Bytes)
  write : Path → Bytes → m (Except DiskError Unit)
  makeFolders : Path → m (Except DiskError Unit)

namespace Disk

variable {m : Type → Type} [Monad m]

def readText (disk : Disk m) (p : Path) : m (Except DiskError Text) := do
  return (← disk.read p).bind fun b =>
    match Text.Utf8.decode? b with
    | some t => .ok t
    | none => .error .invalidText

def writeText (disk : Disk m) (p : Path) (t : Text) : m (Except DiskError Unit) := disk.write p (Text.Utf8.encode t)

end Disk

end Toolpath.Files
