import Toolpath.Number.Decimal

/-!
TOML documents as trees. A table remembers how it came into being, since a table may be opened by a
header or by dotted keys, but not by both, and by a header only once.
-/

namespace Toolpath.Toml

inductive Origin
  | explicit
  | implied
  | dotted
  deriving DecidableEq, Repr

inductive Node
  | string (t : Text)
  | integer (n : Int)
  | float (x : Float)
  | boolean (b : Bool)
  | moment
  | array (items : List Node)
  | inline (fields : List (Text × Node))
  | table (origin : Origin) (fields : List (Text × Node))
  -- The tables of a repeated header, the latest one apart.
  | tables (latest : List (Text × Node)) (earlier : List (List (Text × Node)))
  deriving Inhabited

abbrev Fields := List (Text × Node)

namespace Fields

def put (key : Text) (v : Node) (fs : Fields) : Fields :=
  fs.map fun (k, w) => if k = key then (k, v) else (k, w)

def add (key : Text) (v : Node) (fs : Fields) : Fields := fs ++ [(key, v)]

def set? (key : Text) (v : Node) : Bool → Fields → List Text → Option Fields
  -- Tables on the way must not have a header of their own, and the last one must be made by dotted keys, or be the
  -- one that the path starts from.
  | allowed, fs, [] => if allowed ∧ (fs.lookup key).isNone then some (add key v fs) else none
  | _, fs, p :: path =>
    match fs.lookup p with
    | none => (set? key v true [] path).map fun inner => add p (.table .dotted inner) fs
    | some (.table .explicit _) => none
    | some (.table o inner) =>
      (set? key v (o = .dotted) inner path).map fun inner => put p (.table o inner) fs
    | some (.tables latest earlier) =>
      (set? key v false latest path).map fun inner => put p (.tables inner earlier) fs
    | some _ => none

def change? (f : Text → Fields → Option Fields) : List Text → Fields → Option Fields
  | [], _ => none
  | [key], fs => f key fs
  | p :: path, fs =>
    match fs.lookup p with
    | none => (change? f path []).map fun inner => add p (.table .implied inner) fs
    | some (.table o inner) => (change? f path inner).map fun inner => put p (.table o inner) fs
    | some (.tables latest earlier) => (change? f path latest).map fun inner => put p (.tables inner earlier) fs
    | some _ => none

def openTable? (path : List Text) (fs : Fields) : Option Fields :=
  change? (fun key fs => match fs.lookup key with
    | none => some (add key (.table .explicit []) fs)
    | some (.table .implied inner) => some (put key (.table .explicit inner) fs)
    | some _ => none) path fs

def openNext? (path : List Text) (fs : Fields) : Option Fields :=
  change? (fun key fs => match fs.lookup key with
    | none => some (add key (.tables [] []) fs)
    | some (.tables latest earlier) => some (put key (.tables [] (latest :: earlier)) fs)
    | some _ => none) path fs

def assign? (header path : List Text) (key : Text) (v : Node) (fs : Fields) : Option Fields :=
  if header.isEmpty then set? key v true fs path
  else change? (fun name fs => match fs.lookup name with
    | some (.table o inner) => (set? key v true inner path).map fun inner => put name (.table o inner) fs
    | some (.tables latest earlier) =>
      (set? key v true latest path).map fun inner => put name (.tables inner earlier) fs
    | _ => none) header fs

end Fields

end Toolpath.Toml
