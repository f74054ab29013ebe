import Toolpath.Pattern.Basic

/-!
Patterns in normal form: runs of single characters are texts, sequences and choices lie flat, a choice
between characters is a set, and what all branches of a choice begin with stands before it. Nothing is
repeated that matches only the empty text. The form of a pattern decides how much room it takes.
-/

namespace Toolpath.Pattern

open Text (Ranges)

inductive Form
  | empty
  | text (t : Text)
  | set (k : Ranges)
  | look (l : Look)
  | rep (p : Form) (least : Nat) (most : Option Nat) (greedy : Bool)
  | group (p : Form)
  | seq (ps : List Form)
  | alt (ps : List Form)
  deriving Inhabited

namespace Form

mutual

def same : Form → Form → Bool
  -- A group that is remembered is like no other.
  | empty, empty => true
  | text t, text u => t = u
  | set k, set l => k = l
  | look l, look m => l = m
  | rep p a b g, rep q c d h => a = c && b = d && g == h && same p q
  | seq ps, seq qs => sameAll ps qs
  | alt ps, alt qs => sameAll ps qs
  | _, _ => false

def sameAll : List Form → List Form → Bool
  | [], [] => true
  | p :: ps, q :: qs => same p q && sameAll ps qs
  | _, _ => false

end

mutual

def least : Form → Option Nat
  | empty => some 0
  | text t => some (t.foldl (fun n c => n + c.utf8Size) 0)
  | set k => k.toList.head?.map fun r => (Char.ofNat r.1).utf8Size
  | look _ => some 0
  | rep p n _ _ => p.least.map (· * n)
  | group p => p.least
  | seq ps => leastSum ps
  | alt ps => (leastAll ps).bind (·.min?)

def leastSum : List Form → Option Nat
  | [] => some 0
  | p :: ps => do return (← p.least) + (← leastSum ps)

def leastAll : List Form → Option (List Nat)
  | [] => some []
  | p :: ps => do return (← p.least) :: (← leastAll ps)

end

mutual

def most : Form → Option Nat
  | empty => some 0
  | text t => some (t.foldl (fun n c => n + c.utf8Size) 0)
  | set k => k.toList.getLast?.map fun r => (Char.ofNat r.2).utf8Size
  | look _ => some 0
  | rep p _ m _ => do return (← p.most) * (← m)
  | group p => p.most
  | seq ps => mostSum ps
  | alt ps => (mostAll ps).bind (·.max?)

def mostSum : List Form → Option Nat
  | [] => some 0
  | p :: ps => do return (← p.most) + (← mostSum ps)

def mostAll : List Form → Option (List Nat)
  | [] => some []
  | p :: ps => do return (← p.most) :: (← mostAll ps)

end

mutual

def fromStart : Form → Bool
  | look .textStart => true
  | rep p n _ _ => 0 < n && p.fromStart
  | group p => p.fromStart
  | seq ps => fromStartAny ps
  | alt ps => fromStartAll ps
  | _ => false

def fromStartAny : List Form → Bool
  | [] => false
  | p :: ps => p.fromStart || (p.most = some 0 && fromStartAny ps)

def fromStartAll : List Form → Bool
  | [] => true
  | p :: ps => p.fromStart && fromStartAll ps

end

mutual

def toEnd : Form → Bool
  | look .textEnd => true
  | rep p n _ _ => 0 < n && p.toEnd
  | group p => p.toEnd
  | seq ps => (toEndAny ps).1
  | alt ps => toEndAll ps
  | _ => false

def toEndAny : List Form → Bool × Bool
  | [] => (false, true)
  | p :: ps =>
    let (found, still) := toEndAny ps
    (found || (still && p.toEnd), still && p.most = some 0)

def toEndAll : List Form → Bool
  | [] => true
  | p :: ps => p.toEnd && toEndAll ps

end

def ofSet (k : Ranges) : Form :=
  match k.toList with
  | [(a, b)] => if a = b then text [Char.ofNat a] else set k
  | _ => set k

def items : Form → List Form
  | empty => []
  | seq ps => ps
  | p => [p]

def ofItems : List Form → Form
  | [] => empty
  | [p] => p
  | ps => seq ps

def joinItems (ps qs : List Form) : List Form :=
  match ps.getLast?, qs with
  | some (text t), text u :: r => ps.dropLast ++ text (t ++ u) :: r
  | _, _ => ps ++ qs

def append (p q : Form) : Form := ofItems (joinItems p.items q.items)

def repeated (p : Form) (least : Nat) (most : Option Nat) (greedy : Bool) : Form :=
  let (least, most) := if p.most = some 0 then (min least 1, some (min (most.getD 1) 1)) else (least, most)
  if most = some 0 then empty
  else if least = 1 ∧ most = some 1 then p
  else rep p least most greedy

def char? : Form → Option Char
  | text [c] => some c
  | _ => none

def set? : Form → Option Ranges
  | set k => some k
  | _ => none

def seq? : Form → Option (List Form)
  | seq ps => some ps
  | _ => none

def common : List Form → List Form → Nat
  | p :: ps, q :: qs => if p.same q then common ps qs + 1 else 0
  | _, _ => 0

def choiceOf : Nat → List Form → Form
  | 0, ps => alt ps
  | fuel + 1, ps =>
    match ps.flatMap fun p => match p with
      | alt qs => qs
      | p => [p] with
    | [] => set .none
    | [p] => p
    | ps =>
      match ps.mapM char?, ps.mapM set?, ps.mapM seq? with
      | some cs, _, _ => ofSet (.ofChars cs)
      | none, some ks, _ => ofSet (.unionAll ks)
      | none, none, some (first :: rest) =>
        let n := (rest.map (common first)).foldl min first.length
        if n = 0 then alt ps
        else append (ofItems (first.take n)) (choiceOf fuel ((first :: rest).map fun s => ofItems (s.drop n)))
      | none, none, _ => alt ps

def choice (ps : List Form) : Form := choiceOf (ps.foldr (fun p n => p.items.length + n) 1) ps

end Form

def forms : Pattern → List Form
  | empty => [.empty]
  | chars k => [.ofSet k]
  | look l => [.look l]
  | seq p q => [(Form.choice p.forms).append (.choice q.forms)]
  | alt p q => .choice p.forms :: q.forms
  | rep p least most greedy => [(Form.choice p.forms).repeated least most greedy]
  | group kept p => [if kept then .group (.choice p.forms) else .choice p.forms]

def form (p : Pattern) : Form := .choice p.forms

end Toolpath.Pattern
