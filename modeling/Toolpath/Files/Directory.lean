import Toolpath.Files.Disk

/-!
Files and folders as a value. Paths are followed piece by piece, so that a path through something that
is no folder leads nowhere.
-/

namespace Toolpath.Files

open Text.Utf8 (Bytes)

structure Directory where
  folders : List (List Text)
  files : List (List Text × Bytes)
  deriving DecidableEq, Repr

namespace Directory

def empty : Directory := ⟨[], []⟩

def kindAt? (d : Directory) (place : List Text) : Option Kind :=
  if place.isEmpty ∨ place ∈ d.folders then some .folder
  else if (d.files.lookup place).isSome then some .file
  else none

def enter (d : Directory) (place : List Text) : Except DiskError Unit :=
  match d.kindAt? place with
  | some .folder => .ok ()
  | some .file => .error .notFolder
  | none => .error .notFound

def step (place : List Text) (piece : Text) : List Text :=
  if !Path.isName piece then place
  else if piece = ['.', '.'] then place.dropLast
  else place ++ [piece]

def walk (d : Directory) : List Text → List Text → Except DiskError (List Text)
  | place, [] => .ok place
  | place, piece :: r => do
    d.enter place
    d.walk (step place piece) r

def locate (d : Directory) (p : Path) : Except DiskError (List Text) :=
  if p.isEmpty then .error .notFound
  else if '\x00' ∈ p then .error .invalidName
  else d.walk [] (Path.pieces p)

def kind? (d : Directory) (p : Path) : Option Kind :=
  match d.locate p with
  | .ok place => d.kindAt? place
  | .error _ => none

def read (d : Directory) (p : Path) : Except DiskError Bytes := do
  let place ← d.locate p
  match d.files.lookup place, d.kindAt? place with
  | some b, some .file => .ok b
  | _, some _ => .error .isFolder
  | _, none => .error .notFound

def put (d : Directory) (place : List Text) (b : Bytes) : Directory :=
  { d with files := (place, b) :: d.files.filter (·.1 ≠ place) }

def target? (d : Directory) (p : Path) : Except DiskError (Option (List Text)) :=
  -- Slashes at the end are not followed.
  if p.isEmpty then .error .notFound
  else if '\x00' ∈ p then .error .invalidName
  else do
    let pieces := Path.pieces (p.reverse.dropWhile (· = '/')).reverse
    let place ← d.walk [] pieces.dropLast
    d.enter place
    return (pieces.getLast?.filter fun name => Path.isName name && name ≠ ['.', '.']).map (step place)

def write (d : Directory) (p : Path) (b : Bytes) : Except DiskError Directory := do
  match ← d.target? p with
  | none => .error .isFolder
  | some place =>
    if p.getLast? = some '/' ∨ d.kindAt? place = some .folder then .error .isFolder
    else .ok (d.put place b)

def makeFrom (d : Directory) : List Text → List Text → Except DiskError Directory
  | _, [] => .ok d
  | place, name :: r =>
    let place := step place name
    match d.kindAt? place with
    | some .folder => d.makeFrom place r
    | some .file => .error (if r.isEmpty then .alreadyExists else .notFolder)
    | none => makeFrom { d with folders := place :: d.folders } place r

def makeFolders (d : Directory) (p : Path) : Except DiskError Directory :=
  if '\x00' ∈ p then .error .invalidName else d.makeFrom [] (Path.names p)

def makeFolder (d : Directory) (p : Path) : Except DiskError Directory := do
  match ← d.target? p with
  | none => .error .alreadyExists
  | some place =>
    match d.kindAt? place with
    | some _ => .error .alreadyExists
    | none => .ok { d with folders := place :: d.folders }

def update (f : Directory → Except DiskError Directory) : StateM Directory (Except DiskError Unit) := fun d =>
  match f d with
  | .ok d => (.ok (), d)
  | .error e => (.error e, d)

def disk : Disk (StateM Directory) where
  kind? p := fun d => (d.kind? p, d)
  read p := fun d => (d.read p, d)
  write p b := update (·.write p b)
  makeFolders p := update (·.makeFolders p)

end Directory

end Toolpath.Files
