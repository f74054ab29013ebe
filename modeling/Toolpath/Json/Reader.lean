import Toolpath.Json.Basic
import Toolpath.Number.Decimal

/-!
Reading JSON texts, and the values of numbers. A number with more digits than 64 bits hold is cut, and
its power of ten is applied to the rounded digits, so that the last bit of a long number may differ from
the nearest double.
-/

namespace Toolpath.Json

def isSpace (c : Char) : Bool := c = ' ' || c = '\n' || c = '\t' || c = '\r'

def skipSpace (t : Text) : Text := t.dropWhile isSpace

def hexDigit? (c : Char) : Option Nat :=
  if Text.isAsciiDigit c then some (c.toNat - 48)
  else
    let l := Text.lowerAscii c
    if 'a' ≤ l ∧ l ≤ 'f' then some (l.toNat - 87) else none

def readHex4? : Text → Option (Nat × Text)
  | a :: b :: c :: d :: r => do
    return (4096 * (← hexDigit? a) + 256 * (← hexDigit? b) + 16 * (← hexDigit? c) + (← hexDigit? d), r)
  | _ => none

def isHighHalf (n : Nat) : Bool := 0xD800 ≤ n && n < 0xDC00

def isLowHalf (n : Nat) : Bool := 0xDC00 ≤ n && n < 0xE000

def readString? : Nat → Text → Option (Text × Bool × Text)
  -- The flag tells whether all escapes stand for characters; half of a pair does not.
  | 0, _ => none
  | fuel + 1, t =>
    let cons (c : Char) (r : Text) : Option (Text × Bool × Text) :=
      (readString? fuel r).map fun (s, ok, r) => (c :: s, ok, r)
    let half (r : Text) : Option (Text × Bool × Text) :=
      (readString? fuel r).map fun (s, _, r) => ('\uFFFD' :: s, false, r)
    match t with
    | [] => none
    | '"' :: r => some ([], true, r)
    | '\\' :: 'u' :: r => do
      let (n, r) ← readHex4? r
      if isHighHalf n then
        match r with
        | '\\' :: 'u' :: s => do
          let (m, s) ← readHex4? s
          if isLowHalf m then cons (Char.ofNat (0x10000 + (n - 0xD800) * 1024 + (m - 0xDC00))) s else half r
        | _ => half r
      else if isLowHalf n then half r
      else cons (Char.ofNat n) r
    | '\\' :: c :: r =>
      match c with
      | '"' | '\\' | '/' => cons c r
      | 'b' => cons '\x08' r
      | 'f' => cons '\x0c' r
      | 'n' => cons '\n' r
      | 'r' => cons '\r' r
      | 't' => cons '\t' r
      | _ => none
    | c :: r => if c.toNat < 32 then none else cons c r

def readDigits? (t : Text) : Option (Text × Text) :=
  match t.span Text.isAsciiDigit with
  | ([], _) => none
  | r => some r

def readNumber? (t : Text) : Option (Text × Text) := do
  let (minus, t) : Text × Text := match t with
    | '-' :: r => (['-'], r)
    | t => ([], t)
  let (whole, t) ← readDigits? t
  if 1 < whole.length ∧ whole.head? = some '0' then none
  let (fraction, t) ← match t with
    | '.' :: r => (readDigits? r).map fun (d, r) => ('.' :: d, r)
    | t => some ([], t)
  let (exponent, t) ← match t with
    | c :: r =>
      if c = 'e' ∨ c = 'E' then
        let (sign, r) := Number.cutSign r
        (readDigits? r).map fun (d, r) => (c :: sign ++ d, r)
      else some ([], t)
    | [] => some ([], [])
  return (minus ++ whole ++ fraction ++ exponent, t)

mutual

def readValue? : Nat → Text → Option (Json × Text)
  | 0, _ => none
  | fuel + 1, t =>
    match skipSpace t with
    | 'n' :: 'u' :: 'l' :: 'l' :: r => some (null, r)
    | 't' :: 'r' :: 'u' :: 'e' :: r => some (bool true, r)
    | 'f' :: 'a' :: 'l' :: 's' :: 'e' :: r => some (bool false, r)
    | '"' :: r => (readString? (r.length + 1) r).map fun (s, _, r) => (string s, r)
    | '[' :: r =>
      match skipSpace r with
      | ']' :: r => some (array [], r)
      | _ => (readItems? fuel r).map fun (items, r) => (array items, r)
    | '\x7b' :: r =>
      match skipSpace r with
      | '\x7d' :: r => some (object [], r)
      | _ => (readFields? fuel r).map fun (fields, r) => ((fields.map object).getD unnamed, r)
    | r => (readNumber? r).map fun (n, r) => (number n, r)

def readItems? : Nat → Text → Option (List Json × Text)
  | 0, _ => none
  | fuel + 1, t => do
    let (j, r) ← readValue? fuel t
    match skipSpace r with
    | ']' :: r => some ([j], r)
    | ',' :: r => (readItems? fuel r).map fun (js, r) => (j :: js, r)
    | _ => none

def readFields? : Nat → Text → Option (Option (List (Text × Json)) × Text)
  | 0, _ => none
  | fuel + 1, t =>
    match skipSpace t with
    | '"' :: r => do
      let (name, ok, r) ← readString? (r.length + 1) r
      match skipSpace r with
      | ':' :: r => do
        let (j, r) ← readValue? fuel r
        let field := if ok then some (name, j) else none
        match skipSpace r with
        | '\x7d' :: r => some (field.map ([·]), r)
        | ',' :: r => (readFields? fuel r).map fun (fs, r) => (List.cons <$> field <*> fs, r)
        | _ => none
      | _ => none
    | _ => none

end

def read? (t : Text) : Option Json := do
  let (j, r) ← readValue? (2 * t.length + 2) t
  if (skipSpace r).isEmpty then some j else none

inductive Scaled
  | whole (n : Int)
  | scaled (negative : Bool) (significand : Nat) (exponent : Int)
  deriving Repr

def takeDigits (n : Nat) : Text → Nat × Nat
  | [] => (n, 0)
  | c :: r =>
    let m := 10 * n + (c.toNat - 48)
    if m < 0x10000000000000000 then takeDigits m r else (n, r.length + 1)

def maxExponent : Nat := 0x7FFFFFFF

def scaled (written : Text) : Scaled :=
  -- From the first digit on that does not fit into 64 bits, those before the point only count for the exponent;
  -- those behind it are taken as long as they fit.
  let (negative, t) := match written with
    | '-' :: r => (true, r)
    | t => (false, t)
  let (whole, t) := t.span Text.isAsciiDigit
  let (fraction, t) := match t with
    | '.' :: r => r.span Text.isAsciiDigit
    | t => ([], t)
  let (n, dropped) := takeDigits 0 whole
  let (m, cut) := takeDigits n fraction
  let places : Int := dropped - (fraction.length - cut : Nat)
  match t with
  | _ :: e =>
    let (sign, e) := Number.cutSign e
    let k : Int := min maxExponent ((Number.digitsValue? e).getD 0)
    .scaled negative m (places + if sign = ['-'] then -k else k)
  | [] =>
    if fraction.isEmpty ∧ dropped = 0 then
      if negative then (if 0 < n ∧ n ≤ 0x8000000000000000 then .whole (-n) else .scaled true n 0) else .whole n
    else .scaled negative m places

def applyExponent : Nat → Float → Int → Option Float
  | 0, _, _ => none
  | fuel + 1, f, e =>
    if e.natAbs ≤ 308 then
      let power := Float.ofScientific 1 false e.natAbs
      if 0 ≤ e then
        let g := f * power
        if g.isFinite then some g else none
      else some (f / power)
    else if f == Float.ofNat 0 then some f
    else if 0 ≤ e then none
    else applyExponent fuel (f / Float.ofScientific 1 false 308) (e + 308)

def floatValue? (written : Text) : Option Float :=
  match scaled written with
  | .whole n => some (Float.ofInt n)
  | .scaled negative m e =>
    (applyExponent 8 (Float.ofNat m) e).map fun f => if negative then -f else f

def natValue? (written : Text) : Option Nat :=
  match scaled written with
  | .whole n => if 0 ≤ n then some n.toNat else none
  | .scaled _ _ _ => none

end Toolpath.Json
