import Toolpath.Toml.Basic

/-!
Numbers, booleans, dates and times: values that are written without quotes or brackets.
-/

namespace Toolpath.Toml

open Text (isAsciiDigit)

def digitGroups? (p : Char → Bool) : Text → Option Text
  | [] => none
  | [c] => if p c then some [c] else none
  | c :: '_' :: r => if p c then (digitGroups? p r).map (c :: ·) else none
  | c :: r => if p c then (digitGroups? p r).map (c :: ·) else none

def wholeDigits? (t : Text) : Option Text :=
  if t.head? = some '0' ∧ 1 < t.length then none else digitGroups? isAsciiDigit t

def isGroupChar (c : Char) : Bool := isAsciiDigit c || c = '_'

def hexValue (c : Char) : Nat := if isAsciiDigit c then c.toNat - 48 else (Text.lowerAscii c).toNat - 87

def isBaseDigit (base : Nat) (c : Char) : Bool :=
  (isAsciiDigit c || ('a' ≤ Text.lowerAscii c && Text.lowerAscii c ≤ 'f')) && hexValue c < base

def within64? (n : Int) : Option Int := if -0x8000000000000000 ≤ n ∧ n < 0x8000000000000000 then some n else none

def baseInteger? (base : Nat) (t : Text) : Option Int := do
  let digits ← digitGroups? (isBaseDigit base) t
  within64? (digits.foldl (fun n c => base * n + hexValue c) 0 : Nat)

def integer? (t : Text) : Option Int :=
  match t with
  | '0' :: 'x' :: r => baseInteger? 16 r
  | '0' :: 'o' :: r => baseInteger? 8 r
  | '0' :: 'b' :: r => baseInteger? 2 r
  | t => do
    let (sign, r) := Number.cutSign t
    let n ← Number.digitsValue? (← wholeDigits? r)
    within64? (if sign = ['-'] then -(n : Int) else n)

def exponent? : Text → Option Text
  | [] => some []
  | c :: r => do
    if c ≠ 'e' ∧ c ≠ 'E' then none
    let (sign, r) := Number.cutSign r
    return c :: sign ++ (← digitGroups? isAsciiDigit r)

-- A number that is too large is refused; one that is too small is negative infinity.
def float? (t : Text) : Option Float := do
  let (sign, r) := Number.cutSign t
  if r = "inf".toList then return Number.infinity (sign = ['-'])
  if r = "nan".toList then return Number.nan
  let (whole, r) := r.span isGroupChar
  let whole ← wholeDigits? whole
  let (fraction, r) ← match r with
    | '.' :: r =>
      let (f, r) := r.span isGroupChar
      (digitGroups? isAsciiDigit f).map fun f => ('.' :: f, r)
    | [] => none
    | r => some ([], r)
  let x ← Number.readFloat? (sign ++ whole ++ fraction ++ (← exponent? r))
  if x == Number.infinity false then none else some x

def fixedDigits? (count : Nat) (t : Text) : Option (Nat × Text) := do
  if (t.take count).length ≠ count then none
  return (← Number.digitsValue? (t.take count), t.drop count)

def isLeapYear (y : Nat) : Bool := y % 4 = 0 && (y % 100 ≠ 0 || y % 400 = 0)

def daysOfMonth (y m : Nat) : Nat :=
  if m = 2 then (if isLeapYear y then 29 else 28) else if [4, 6, 9, 11].contains m then 30 else 31

def expect? (c : Char) (t : Text) : Option Text := if t.head? = some c then some (t.drop 1) else none

def date? (t : Text) : Option Text := do
  let (y, t) ← fixedDigits? 4 t
  let (m, t) ← fixedDigits? 2 (← expect? '-' t)
  let (d, t) ← fixedDigits? 2 (← expect? '-' t)
  if 1 ≤ m ∧ m ≤ 12 ∧ 1 ≤ d ∧ d ≤ daysOfMonth y m then some t else none

def time? (t : Text) : Option Text := do
  let (h, t) ← fixedDigits? 2 t
  let (m, t) ← fixedDigits? 2 (← expect? ':' t)
  let (s, t) ← fixedDigits? 2 (← expect? ':' t)
  if 23 < h ∨ 59 < m ∨ 60 < s then none
  match t with
  | '.' :: r =>
    match r.span isAsciiDigit with
    | ([], _) => none
    | (_, r) => some r
  | t => some t

def offset? (t : Text) : Option Text :=
  match t with
  | 'Z' :: r | 'z' :: r => some r
  | '+' :: r | '-' :: r => do
    let (h, r) ← fixedDigits? 2 r
    let (m, r) ← fixedDigits? 2 (← expect? ':' r)
    if h ≤ 23 ∧ m ≤ 59 then some r else none
  | t => some t

def isMoment (t : Text) : Bool :=
  match date? t with
  | some [] => true
  | some (c :: r) => (c = 'T' || c = 't' || c = ' ') && (time? r).bind offset? == some []
  | none => time? t == some []

def isDate (t : Text) : Bool := date? t == some []

def scalar? (t : Text) : Option Node :=
  if t = "true".toList then some (.boolean true)
  else if t = "false".toList then some (.boolean false)
  else if isMoment t then some .moment
  else match integer? t with
    | some n => some (.integer n)
    | none => (float? t).map .float

end Toolpath.Toml
