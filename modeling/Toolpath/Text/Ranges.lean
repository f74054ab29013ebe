import Toolpath.Text.Basic

/-!
Sets of characters as closed ranges of code points, ascending and apart from each other. The halves of
surrogate pairs are no characters and stand in no set.
-/

namespace Toolpath.Text

structure Ranges where
  toArray : Array (Nat × Nat)
  deriving DecidableEq, Repr

namespace Ranges

def toList (s : Ranges) : List (Nat × Nat) := s.toArray.toList

def search (ranges : Array (Nat × Nat)) (n : Nat) : Nat → Nat → Nat → Bool
  | 0, _, _ => false
  | fuel + 1, lo, hi =>
    if lo < hi then
      let mid := (lo + hi) / 2
      match ranges[mid]? with
      | none => false
      | some (a, b) =>
        if n < a then search ranges n fuel lo mid
        else if b < n then search ranges n fuel (mid + 1) hi
        else true
    else false

def has (s : Ranges) (n : Nat) : Bool := search s.toArray n (s.toArray.size + 1) 0 s.toArray.size

def contains (s : Ranges) (c : Char) : Bool := s.has c.toNat

def coalesce : List (Nat × Nat) → List (Nat × Nat)
  | [] => []
  | r :: rest => go r.1 r.2 rest
where
  go (lo hi : Nat) : List (Nat × Nat) → List (Nat × Nat)
    | [] => [(lo, hi)]
    | (a, b) :: rest => if a ≤ hi + 1 then go lo (max hi b) rest else (lo, hi) :: go a b rest

def merge : Nat → List (Nat × Nat) → List (Nat × Nat) → List (Nat × Nat)
  | 0, _, _ => []
  | _ + 1, [], s => s
  | _ + 1, r, [] => r
  | fuel + 1, x :: r, y :: s => if x.1 ≤ y.1 then x :: merge fuel r (y :: s) else y :: merge fuel (x :: r) s

def scalars (lo hi : Nat) : List (Nat × Nat) :=
  [(lo, min hi 0xD7FF), (max lo 0xE000, min hi 0x10FFFF)].filter fun r => r.1 ≤ r.2

def ofAscending (l : List (Nat × Nat)) : Ranges := ⟨(coalesce (l.flatMap fun r => scalars r.1 r.2)).toArray⟩

def none : Ranges := ⟨#[]⟩

def range (lo hi : Nat) : Ranges := ofAscending [(lo, hi)]

def all : Ranges := range 0 0x10FFFF

def isEmpty (s : Ranges) : Bool := s.toArray.isEmpty

def union (s t : Ranges) : Ranges :=
  ⟨(coalesce (merge (s.toArray.size + t.toArray.size + 1) s.toList t.toList)).toArray⟩

def gaps (start : Nat) : List (Nat × Nat) → List (Nat × Nat)
  | [] => [(start, 0x10FFFF)]
  | (a, b) :: rest => if start < a then (start, a - 1) :: gaps (b + 1) rest else gaps (b + 1) rest

def complement (s : Ranges) : Ranges := ofAscending (gaps 0 s.toList)

def inter (s t : Ranges) : Ranges := (s.complement.union t.complement).complement

def minus (s t : Ranges) : Ranges := s.inter t.complement

def symmDiff (s t : Ranges) : Ranges := (s.minus t).union (t.minus s)

def unionAll (l : List Ranges) : Ranges := l.foldl union none

def insert (n : Nat) : List (Nat × Nat) → List (Nat × Nat)
  | [] => [(n, n)]
  | r :: rest => if n ≤ r.1 then (n, n) :: r :: rest else r :: insert n rest

def ofChars (l : List Char) : Ranges := ofAscending (l.foldl (fun s c => insert c.toNat s) [])

def size (s : Ranges) : Nat := s.toArray.foldl (fun n r => n + (r.2 + 1 - r.1)) 0

def hexValue (t : Text) : Nat :=
  t.foldl (fun n c => 16 * n + (if isAsciiDigit c then c.toNat - 48 else (lowerAscii c).toNat - 87)) 0

def ofWord (t : Text) : List (Nat × Nat) :=
  match t.span (· ≠ '-') with
  | (lo, []) => [(hexValue lo, hexValue lo)]
  | (lo, _ :: r) =>
    match r.span (· ≠ '/') with
    | (hi, []) => [(hexValue lo, hexValue hi)]
    | (hi, _) =>
      let lo := hexValue lo
      (List.range ((hexValue hi - lo) / 2 + 1)).map fun k => (lo + 2 * k, lo + 2 * k)

def ofTable (s : String) : Ranges := ofAscending ((words s.toList).flatMap ofWord)

end Ranges

end Toolpath.Text
