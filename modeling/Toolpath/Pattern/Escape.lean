import Toolpath.Pattern.Basic
import Toolpath.Text.Basic

/-!
The parts of a written pattern below groups: flags, counts, and what a backslash begins.
-/

namespace Toolpath.Pattern

open Text (Ranges)

inductive Flaw
  | unclosedGroup
  | unopenedGroup
  | badGroupName
  | lookAround
  | badFlag
  | nothingToRepeat
  | badCount
  | unfinishedEscape
  | unknownEscape
  | backReference
  | badCodePoint
  | unknownProperty
  | unclosedClass
  | badRange
  | notInClass
  | notInText
  | tooDeep
  | tooLarge
  deriving DecidableEq, Repr

def Flaw.message : Flaw → Text
  | unclosedGroup => "unclosed group".toList
  | unopenedGroup => "unopened group".toList
  | badGroupName => "invalid group name".toList
  | lookAround => "look-around is not supported".toList
  | badFlag => "invalid flags".toList
  | nothingToRepeat => "repetition operator missing expression".toList
  | badCount => "invalid repetition count".toList
  | unfinishedEscape => "incomplete escape sequence".toList
  | unknownEscape => "unrecognized escape sequence".toList
  | backReference => "backreferences are not supported".toList
  | badCodePoint => "invalid hexadecimal escape".toList
  | unknownProperty => "Unicode property not found".toList
  | unclosedClass => "unclosed character class".toList
  | badRange => "invalid character class range".toList
  | notInClass => "not allowed in a character class".toList
  | notInText => "pattern can match invalid text".toList
  | tooDeep => "too many nested expressions".toList
  | tooLarge => "compiled expression is too large".toList

structure Flags where
  ignoreCase : Bool
  multiLine : Bool
  dotAll : Bool
  swapGreed : Bool
  unicode : Bool
  ignoreSpace : Bool
  anyLineEnd : Bool
  deriving DecidableEq, Repr

namespace Flags

def plain : Flags := ⟨false, false, false, false, true, false, false⟩

def set? (f : Flags) (letter : Char) (on : Bool) : Option Flags :=
  match letter with
  | 'i' => some { f with ignoreCase := on }
  | 'm' => some { f with multiLine := on }
  | 's' => some { f with dotAll := on }
  | 'U' => some { f with swapGreed := on }
  | 'u' => some { f with unicode := on }
  | 'x' => some { f with ignoreSpace := on }
  | 'R' => some { f with anyLineEnd := on }
  | _ => none

def read (seen : List Char) (negated dangling : Bool) (f : Flags) :
    Text → Except Flaw (Flags × Bool × Char × Text)
  | [] => .error .badFlag
  | c :: r =>
    if c = ':' ∨ c = ')' then if dangling then .error .badFlag else .ok (f, seen.isEmpty, c, r)
    else if c = '-' then if negated then .error .badFlag else read seen true true f r
    else match f.set? c !negated with
      | none => .error .badFlag
      | some g => if seen.contains c then .error .badFlag else read (c :: seen) negated false g r

end Flags

def dropSpace : Bool → Text → Text
  | _, [] => []
  | true, c :: r => dropSpace (c ≠ '\n') r
  | false, c :: r => if c = '#' then dropSpace true r else if Text.isBlank c then dropSpace false r else c :: r

def skip (f : Flags) (t : Text) : Text := if f.ignoreSpace then dropSpace false t else t

def takeRun (f : Flags) (p : Char → Bool) : Nat → Text → Text × Text
  | 0, t => ([], t)
  | fuel + 1, t =>
    match t with
    | [] => ([], [])
    | c :: r =>
      if p c then
        let (run, r) := takeRun f p fuel (skip f r)
        (c :: run, r)
      else ([], t)

def readCount (f : Flags) (t : Text) : Option (Except Flaw Nat) × Text :=
  let t := Text.trimStart t
  let (digits, r) := takeRun f Text.isAsciiDigit t.length t
  let r := Text.trimStart r
  if digits.isEmpty then (none, r)
  else
    let n := digits.foldl (fun n c => 10 * n + (c.toNat - 48)) 0
    (some (if n < 0x100000000 then .ok n else .error .badCount), r)

def readBounds (f : Flags) (t : Text) : Except Flaw (Nat × Option Nat × Text) := do
  let (low, t) := readCount f (skip f t)
  let low := low.getD (.error .badCount)
  match t with
  | ',' :: r =>
    let r := skip f r
    if r.head? = some '\x7d' then return (← low, none, r.drop 1)
    let low ← low
    let (high, r) := readCount f r
    let high ← high.getD (.error .badCount)
    match r with
    | '\x7d' :: r => if high < low then throw .badCount else return (low, some high, r)
    | _ => throw .badCount
  | '\x7d' :: r =>
    let n ← low
    return (n, some n, r)
  | _ => throw .badCount

def foldCase (f : Flags) (k : Ranges) : Ranges :=
  if !f.ignoreCase then k else if f.unicode then Class.anyCase k else Class.anyAsciiCase k

inductive Primitive
  | char (c : Char)
  | set (k : Ranges)
  | condition (l : Look)

def isHex (c : Char) : Bool := Text.isAsciiDigit c || ('a' ≤ c && c ≤ 'f') || ('A' ≤ c && c ≤ 'F')

def ofCodePoint (digits : Text) : Except Flaw Primitive :=
  let n := Ranges.hexValue digits
  if digits.isEmpty then .error .badCodePoint
  else if n.isValidChar then .ok (.char (Char.ofNat n)) else .error .badCodePoint

def readCodePoint (f : Flags) (count : Nat) (t : Text) : Except Flaw (Primitive × Text) := do
  match skip f t with
  | '\x7b' :: r =>
    let r := skip f r
    match takeRun f isHex r.length r with
    | (digits, '\x7d' :: r) => return (← ofCodePoint digits, skip f r)
    | _ => throw .badCodePoint
  | t =>
    let (digits, r) := takeRun f isHex count t
    if digits.length = count then return (← ofCodePoint digits, r) else throw .badCodePoint

def readByte (f : Flags) (t : Text) : Except Flaw (Primitive × Text) := do
  let (p, r) ← readCodePoint f 2 t
  match p with
  | .char c =>
    if !f.unicode && 127 < c.toNat && (skip f t).head? ≠ some '\x7b' then throw .notInText else return (p, r)
  | _ => return (p, r)

def normalName (t : Text) : String :=
  -- A name that has only `c` after it keeps its `is`, since it is another's.
  let clean (t : Text) : Text :=
    (t.filter fun c => c ≠ ' ' ∧ c ≠ '_' ∧ c ≠ '-' ∧ c.toNat < 128).map Text.lowerAscii
  String.ofList (match t with
    | a :: b :: r =>
      if Text.lowerAscii a = 'i' ∧ Text.lowerAscii b = 's' then
        (if clean r = ['c'] then ['i', 's', 'c'] else clean r)
      else clean t
    | t => clean t)

def splitValue (t : Text) : Option (Text × Bool × Text) :=
  let rec unequal : Text → Option (Text × Text)
    | [] => none
    | '!' :: '=' :: v => some ([], v)
    | c :: r => (unequal r).map fun (n, v) => (c :: n, v)
  match unequal t with
  | some (n, v) => some (n, true, v)
  | none =>
    match t.span (· ≠ ':') with
    | (n, _ :: v) => some (n, false, v)
    | _ =>
      match t.span (· ≠ '=') with
      | (n, _ :: v) => some (n, false, v)
      | _ => none

def propertyNamed (t : Text) : Except Flaw (Ranges × Bool) :=
  let found := match splitValue t with
    | none => (Class.property? (normalName t)).map fun k => (k, false)
    | some (n, negated, v) => (Class.valued? (normalName n) (normalName v)).map fun k => (k, negated)
  match found with
  | some k => .ok k
  | none => .error .unknownProperty

def readProperty (f : Flags) (t : Text) : Except Flaw ((Ranges × Bool) × Text) := do
  match skip f t with
  | [] => throw .unfinishedEscape
  | '\x7b' :: r =>
    let r := skip f r
    match takeRun f (· ≠ '\x7d') r.length r with
    | (name, _ :: r) => return (← propertyNamed name, r)
    | (_, []) => throw .unfinishedEscape
  | c :: r => if c = '\\' then throw .unknownProperty else return (← propertyNamed [c], skip f r)

def letterClass (f : Flags) (letter : Char) : Option (Except Flaw Ranges) :=
  -- Without Unicode the complements are refused, since they would match parts of characters.
  let base : Option (Ranges × Ranges) :=
    match Text.lowerAscii letter with
    | 'd' => some (Text.Category.ranges [.nd], Class.asciiDigit)
    | 's' => some (Text.Property.whiteSpace, Class.asciiSpace)
    | 'w' => some (Text.Property.word, Class.asciiWord)
    | _ => none
  base.map fun (k, ascii) =>
    if letter = Text.lowerAscii letter then .ok (if f.unicode then k else ascii)
    else if f.unicode then .ok k.complement else .error .notInText

def readBoundaryName (f : Flags) (t : Text) : Option (Except Flaw (Look × Text)) :=
  let named (c : Char) : Bool := Text.isAsciiLetter c || c = '-'
  match t with
  | '\x7b' :: r =>
    let r := skip f r
    match r with
    | [] => some (.error .badCount)
    | c :: _ =>
      if !named c then none
      else
        let (name, r) := takeRun f named r.length r
        let ascii := !f.unicode
        let look? : Option Look := match String.ofList name with
          | "start" => some (.wordStart ascii)
          | "end" => some (.wordEnd ascii)
          | "start-half" => some (.noWordBefore ascii)
          | "end-half" => some (.noWordAfter ascii)
          | _ => none
        match r, look? with
        | '\x7d' :: r, some l => some (.ok (l, r))
        | _, _ => some (.error .unknownEscape)
  | _ => none

def isMeta (c : Char) : Bool := "\\.+*?()|[]\x7b\x7d^$#&-~".toList.contains c

def readEscape (f : Flags) (t : Text) : Except Flaw (Primitive × Text) := do
  match t with
  | [] => throw .unfinishedEscape
  | c :: r =>
    if Text.isAsciiDigit c then throw .backReference
    match c with
    | 'x' => readByte f r
    | 'u' => readCodePoint f 4 r
    | 'U' => readCodePoint f 8 r
    | 'p' | 'P' =>
      if !f.unicode then throw .notInText
      let ((k, negated), r) ← readProperty f r
      let k := foldCase f k
      return (.set (if negated != (c = 'P') then k.complement else k), r)
    | 'a' => return (.char '\x07', r)
    | 'f' => return (.char '\x0c', r)
    | 't' => return (.char '\t', r)
    | 'n' => return (.char '\n', r)
    | 'r' => return (.char '\r', r)
    | 'v' => return (.char '\x0b', r)
    | 'A' => return (.condition .textStart, r)
    | 'z' => return (.condition .textEnd, r)
    | 'b' =>
      match readBoundaryName f r with
      | some found =>
        let (l, r) ← found
        return (.condition l, r)
      | none => return (.condition (.boundary !f.unicode), r)
    | 'B' => return (.condition (.noBoundary !f.unicode), r)
    | '<' => return (.condition (.wordStart !f.unicode), r)
    | '>' => return (.condition (.wordEnd !f.unicode), r)
    | _ =>
      match letterClass f c with
      | some k => return (.set (← k), r)
      | none =>
        if isMeta c || (c.toNat < 128 && !Text.isAsciiLetter c) then return (.char c, r)
        else throw .unknownEscape

end Toolpath.Pattern
