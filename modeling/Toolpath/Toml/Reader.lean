import Toolpath.Toml.Scalar

/-!
Reading TOML documents.
-/

namespace Toolpath.Toml

def isSpace (c : Char) : Bool := c = ' ' || c = '\t'

def skipSpace (t : Text) : Text := t.dropWhile isSpace

def isPlain (c : Char) : Bool := c = '\t' || (32 ≤ c.toNat && c.toNat ≠ 127)

def lineEnd? : Text → Option Text
  | '\n' :: r => some r
  | '\r' :: '\n' :: r => some r
  | _ => none

def skipComment (t : Text) : Text :=
  match t with
  | '#' :: r => r.dropWhile isPlain
  | t => t

def endLine? (t : Text) : Option Text :=
  match skipComment (skipSpace t) with
  | [] => some []
  | t => lineEnd? t

def skipLines : Nat → Text → Option Text
  | 0, _ => none
  | fuel + 1, t =>
    match skipSpace t with
    | '#' :: r => (lineEnd? (skipComment ('#' :: r))).bind (skipLines fuel)
    | '\n' :: r => skipLines fuel r
    | '\r' :: r => (lineEnd? ('\r' :: r)).bind (skipLines fuel)
    | t => some t

def readEscape? (t : Text) : Option (Char × Text) := do
  let code (count : Nat) (r : Text) : Option (Char × Text) := do
    let digits := r.take count
    if digits.length ≠ count ∨ !digits.all (isBaseDigit 16) then none
    let n := digits.foldl (fun n c => 16 * n + hexValue c) 0
    if n.isValidChar then some (Char.ofNat n, r.drop count) else none
  match t with
  | 'b' :: r => some ('\x08', r)
  | 't' :: r => some ('\t', r)
  | 'n' :: r => some ('\n', r)
  | 'f' :: r => some ('\x0c', r)
  | 'r' :: r => some ('\r', r)
  | '"' :: r => some ('"', r)
  | '\\' :: r => some ('\\', r)
  | 'u' :: r => code 4 r
  | 'U' :: r => code 8 r
  | _ => none

def readBasic? : Nat → Text → Option (Text × Text)
  | 0, _ => none
  | fuel + 1, t =>
    match t with
    | [] => none
    | '"' :: r => some ([], r)
    | '\\' :: r => do
      let (c, r) ← readEscape? r
      (readBasic? fuel r).map fun (s, r) => (c :: s, r)
    | c :: r => if isPlain c then (readBasic? fuel r).map fun (s, r) => (c :: s, r) else none

def readLiteral? (t : Text) : Option (Text × Text) :=
  match t.span (· ≠ '\'') with
  | (s, _ :: r) => if s.all isPlain then some (s, r) else none
  | _ => none

def closing? (quote : Char) (t : Text) : Option (Text × Text) :=
  let n := (t.takeWhile (· = quote)).length
  if n < 3 then none else some (List.replicate (min n 5 - 3) quote, t.drop (min n 5))

def readLong? (quote : Char) (escapes : Bool) : Nat → Text → Option (Text × Text)
  -- Without escapes a backslash is plain; with them one at the end of a line joins it to the next text.
  | 0, _ => none
  | fuel + 1, t =>
    match closing? quote t with
    | some r => some r
    | none =>
      let cons (c : Char) (r : Text) : Option (Text × Text) :=
        (readLong? quote escapes fuel r).map fun (s, r) => (c :: s, r)
      match t with
      | [] => none
      | '\n' :: r => cons '\n' r
      | '\r' :: '\n' :: r => cons '\n' r
      | c :: r =>
        if escapes ∧ c = '\\' then
          match lineEnd? (skipSpace r) with
          | some r => readLong? quote escapes fuel (r.dropWhile fun c => isSpace c || c = '\n' || c = '\r')
          | none => do
            let (c, r) ← readEscape? r
            cons c r
        else if isPlain c then cons c r
        else none

def readString? (t : Text) : Option (Text × Text) :=
  let firstLine (r : Text) : Text := (lineEnd? r).getD r
  match t with
  | '"' :: '"' :: '"' :: r => readLong? '"' true (r.length + 1) (firstLine r)
  | '\'' :: '\'' :: '\'' :: r => readLong? '\'' false (r.length + 1) (firstLine r)
  | '"' :: r => readBasic? (r.length + 1) r
  | '\'' :: r => readLiteral? r
  | _ => none

def isBareKey (c : Char) : Bool := Text.isAsciiLetter c || Text.isAsciiDigit c || c = '_' || c = '-'

def readPart? (t : Text) : Option (Text × Text) :=
  match t with
  | '"' :: r => readBasic? (r.length + 1) r
  | '\'' :: r => readLiteral? r
  | t =>
    match t.span isBareKey with
    | ([], _) => none
    | r => some r

def readParts? : (limit : Nat) → Text → Option (List Text × Text)
  | 0, _ => none
  | limit + 1, t => do
    let (part, r) ← readPart? (skipSpace t)
    match skipSpace r with
    | '.' :: r => (readParts? limit r).map fun (ps, r) => (part :: ps, r)
    | r => some ([part], r)

def depthLimit : Nat := 80

def readKey? (t : Text) : Option (List Text × Text) := readParts? (depthLimit - 1) t

def isScalarChar (c : Char) : Bool := isBareKey c || c = '+' || c = '.' || c = ':'

def readScalar? (t : Text) : Option (Node × Text) :=
  -- A date may go on with a time after one space.
  let (word, r) := t.span isScalarChar
  match r with
  | ' ' :: s =>
    let (time, s) := s.span isScalarChar
    if isDate word ∧ !time.isEmpty then
      if isMoment (word ++ ' ' :: time) then some (.moment, s) else some (.moment, r)
    else (scalar? word).map fun v => (v, r)
  | _ => (scalar? word).map fun v => (v, r)

mutual

def readValue? : Nat → Nat → Text → Option (Node × Text)
  | 0, _, _ => none
  | fuel + 1, depth, t =>
    match t with
    | '"' :: _ | '\'' :: _ => (readString? t).map fun (s, r) => (.string s, r)
    | '[' :: r =>
      if depth ≤ 1 then none else (readItems? fuel (depth - 1) r).map fun (items, r) => (.array items, r)
    | '\x7b' :: r =>
      if depth ≤ 1 then none
      else
        match skipSpace r with
        | '\x7d' :: r => some (.inline [], r)
        | r => (readPairs? fuel (depth - 1) [] r).map fun (fs, r) => (.inline fs, r)
    | t => readScalar? t

def readItems? : Nat → Nat → Text → Option (List Node × Text)
  | 0, _, _ => none
  | fuel + 1, depth, t => do
    match ← skipLines (t.length + 1) t with
    | ']' :: r => return ([], r)
    | t =>
      let (v, r) ← readValue? fuel depth t
      match ← skipLines (r.length + 1) r with
      | ']' :: r => return ([v], r)
      | ',' :: r => (readItems? fuel depth r).map fun (vs, r) => (v :: vs, r)
      | _ => none

def readPairs? : Nat → Nat → Fields → Text → Option (Fields × Text)
  | 0, _, _, _ => none
  | fuel + 1, depth, fs, t => do
    let (key, r) ← readKey? t
    let (v, r) ← readValue? fuel depth (skipSpace (← expect? '=' r))
    let fs ← Fields.set? (key.getLastD []) v true fs key.dropLast
    match skipSpace r with
    | '\x7d' :: r => return (fs, r)
    | ',' :: r => readPairs? fuel depth fs r
    | _ => none

end

structure Document where
  root : Fields
  header : List Text

namespace Document

def readHeader? (d : Document) (t : Text) : Option (Document × Text) :=
  match t with
  | '[' :: r => do
    let (path, r) ← readKey? r
    let r ← endLine? (← expect? ']' (← expect? ']' r))
    return (⟨← Fields.openNext? path d.root, path⟩, r)
  | r => do
    let (path, r) ← readKey? r
    let r ← endLine? (← expect? ']' r)
    return (⟨← Fields.openTable? path d.root, path⟩, r)

def readPair? (d : Document) (t : Text) : Option (Document × Text) := do
  let (key, r) ← readKey? t
  let r := skipSpace (← expect? '=' r)
  let (v, r) ← readValue? (2 * r.length + 2) depthLimit r
  let r ← endLine? r
  return ({ d with root := ← Fields.assign? d.header key.dropLast (key.getLastD []) v d.root }, r)

def finish? : Nat → Document → Text → Option Fields
  | 0, _, _ => none
  | fuel + 1, d, t =>
    match skipSpace t with
    | [] => some d.root
    | '#' :: r => (endLine? ('#' :: r)).bind (finish? fuel d)
    | '[' :: r => (d.readHeader? r).bind fun (d, r) => finish? fuel d r
    | c :: r =>
      if c = '\n' ∨ c = '\r' then (lineEnd? (c :: r)).bind (finish? fuel d)
      else (d.readPair? (c :: r)).bind fun (d, r) => finish? fuel d r

end Document

def read? (t : Text) : Option Fields :=
  let t := if t.head? = some '\uFEFF' then t.drop 1 else t
  Document.finish? (t.length + 1) ⟨[], []⟩ t

end Toolpath.Toml
