import Toolpath.Pattern.Escape

/-!
Classes in brackets: items, ranges, nested brackets, and the operators between groups of items.
-/

namespace Toolpath.Pattern

open Text (Ranges)

inductive SetOp
  | inter
  | minus
  | symmDiff

structure Bracket where
  set : Ranges
  depth : Nat

namespace Bracket

def unite (items : List Bracket) : Bracket :=
  match items with
  | [b] => b
  | items =>
    ⟨Ranges.unionAll (items.map (·.set)),
      if items.isEmpty then 0 else items.foldl (fun d b => max d b.depth) 0 + 1⟩

def apply (f : Flags) (a : Bracket) (op : SetOp) (b : Bracket) : Bracket :=
  let x := foldCase f a.set
  let y := foldCase f b.set
  let k := match op with
    | .inter => x.inter y
    | .minus => x.minus y
    | .symmDiff => x.symmDiff y
  ⟨k, max a.depth b.depth + 1⟩

end Bracket

def setOp? : Text → Option (SetOp × Text)
  | '&' :: '&' :: r => some (.inter, r)
  | '-' :: '-' :: r => some (.minus, r)
  | '~' :: '~' :: r => some (.symmDiff, r)
  | _ => none

def readNamed? (f : Flags) (t : Text) : Option (Except Flaw Ranges × Text) :=
  match t with
  | ':' :: r =>
    let (negated, r) := match r with
      | '^' :: r => (true, r)
      | r => (false, r)
    match r.span (· ≠ ':') with
    | (name, ':' :: ']' :: r) =>
      (Class.named? (String.ofList name)).map fun k =>
        let k := foldCase f k
        (if !negated then .ok k else if f.unicode then .ok k.complement else .error .notInText, r)
    | _ => none
  | _ => none

def readItem (f : Flags) (t : Text) : Except Flaw (Primitive × Text) := do
  let (item, r) ← match t with
    | [] => throw .unclosedClass
    | '\\' :: r => readEscape f r
    | c :: r => pure (.char c, r)
  match item with
  | .char c => if !f.unicode && 127 < c.toNat then throw .notInText else return (item, r)
  | _ => return (item, r)

def readRange (f : Flags) (t : Text) : Except Flaw (Ranges × Text) := do
  let (first, r) ← readItem f t
  let r := skip f r
  if r.isEmpty then throw .unclosedClass
  let single : Except Flaw (Ranges × Text) := match first with
    | .char c => .ok (.ofChars [c], r)
    | .set k => .ok (k, r)
    | .condition _ => .error .notInClass
  match r with
  | '-' :: s =>
    let s' := skip f s
    if s'.head? = some ']' ∨ s'.head? = some '-' then single
    else
      if s'.isEmpty then throw .unclosedClass
      let (last, r) ← readItem f s'
      match first, last with
      | .char a, .char b => if a ≤ b then return (.range a.toNat b.toNat, r) else throw .badRange
      | _, _ => throw .badRange
  | _ => single

def readLeading (f : Flags) (t : Text) : List Bracket × Text :=
  match takeRun f (· = '-') t.length t with
  | ([], ']' :: r) => ([⟨.ofChars [']'], 0⟩], skip f r)
  | (dashes, r) => (dashes.map fun _ => ⟨.ofChars ['-'], 0⟩, r)

structure Open where
  negated : Bool
  left : Option (Bracket × SetOp)
  items : List Bracket

namespace Open

def operand (f : Flags) (o : Open) : Bracket :=
  let b := Bracket.unite o.items.reverse
  match o.left with
  | some (a, op) => Bracket.apply f a op b
  | none => b

def close (f : Flags) (o : Open) : Except Flaw Bracket :=
  let b := o.operand f
  let k := foldCase f b.set
  if o.negated && !f.unicode then .error .notInText
  else .ok ⟨if o.negated then k.complement else k, b.depth + 1⟩

def add (o : Open) (b : Bracket) : Open := { o with items := b :: o.items }

end Open

def openBracket (f : Flags) (t : Text) : Open × Text :=
  match skip f t with
  | '^' :: r =>
    let (items, r) := readLeading f (skip f r)
    (⟨true, none, items⟩, r)
  | r =>
    let (items, r) := readLeading f r
    (⟨false, none, items⟩, r)

def readOpen (f : Flags) : Nat → Open → List Open → Text → Except Flaw (Bracket × Text)
  | 0, _, _, _ => .error .unclosedClass
  | fuel + 1, o, outer, t => do
    let t := skip f t
    match t with
    | [] => throw .unclosedClass
    | '[' :: r =>
      match readNamed? f r with
      | some (k, r) => readOpen f fuel (o.add ⟨← k, 0⟩) outer r
      | none =>
        let (inner, r) := openBracket f r
        readOpen f fuel inner (o :: outer) r
    | ']' :: r =>
      let b ← o.close f
      match outer with
      | [] => return (b, r)
      | p :: outer => readOpen f fuel (p.add b) outer r
    | _ =>
      match setOp? t with
      | some (op, r) => readOpen f fuel ⟨o.negated, some (o.operand f, op), []⟩ outer r
      | none =>
        let (k, r) ← readRange f t
        readOpen f fuel (o.add ⟨k, 0⟩) outer r

def readBracket (f : Flags) (t : Text) : Except Flaw (Bracket × Text) :=
  let (o, r) := openBracket f t
  readOpen f (t.length + 1) o [] r

end Toolpath.Pattern
