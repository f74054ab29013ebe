import Toolpath.Number.Shortest

/-!
JSON values and their indented text. A number is kept as it is written, so that reading decides about
its range only where its value is used. An object with a name that is no text is kept without its fields:
it is wrong only where they are used.
-/

namespace Toolpath

inductive Json
  | null
  | bool (b : Bool)
  | number (written : Text)
  | string (t : Text)
  | array (items : List Json)
  | object (fields : List (Text × Json))
  -- An object with a name that is no text, because it holds half of a surrogate pair.
  | unnamed
  deriving Inhabited

namespace Json

def ofNat (n : Nat) : Json := number (Text.ofNat n)

def floatText (x : Float) : Option Text :=
  match Number.exact x with
  | .finite d =>
    if d.mantissa = 0 then some (Number.signed d.negative ['0', '.', '0'])
    else
      let s := Number.shortest .toEven d
      let leading : Int := s.exponent + (Text.ofNat s.digits).length - 1
      some (Number.signed d.negative (if -5 ≤ leading ∧ leading < 16 then s.plain else s.scientific))
  | _ => none

def ofFloat (x : Float) : Json :=
  match floatText x with
  | some t => number t
  | none => null

def ofText (t : Text) : Json := string t

def ofOption {α : Type} (f : α → Json) : Option α → Json
  | some a => f a
  | none => null

def ofList {α : Type} (f : α → Json) (l : List α) : Json := array (l.map f)

def hexDigit (n : Nat) : Char := (Nat.digitChar n)

def escape (c : Char) : Text :=
  match c with
  | '"' => ['\\', '"']
  | '\\' => ['\\', '\\']
  | '\n' => ['\\', 'n']
  | '\r' => ['\\', 'r']
  | '\t' => ['\\', 't']
  | '\x08' => ['\\', 'b']
  | '\x0c' => ['\\', 'f']
  | c =>
    if c.toNat < 32 then ['\\', 'u', '0', '0', hexDigit (c.toNat / 16), hexDigit (c.toNat % 16)] else [c]

def quote (t : Text) : Text := '"' :: t.flatMap escape ++ ['"']

def indent (depth : Nat) : Text := '\n' :: List.replicate (2 * depth) ' '

def enclose (opening closing : Char) (depth : Nat) (items : List Text) : Text :=
  if items.isEmpty then [opening, closing]
  else opening :: indent (depth + 1) ++ Text.join (',' :: indent (depth + 1)) items ++ indent depth ++ [closing]

mutual

def render (depth : Nat) : Json → Text
  | null => "null".toList
  | bool b => (if b then "true" else "false").toList
  | number t => t
  | string t => quote t
  | array items => enclose '[' ']' depth (renderItems depth items)
  | object fields => enclose '\x7b' '\x7d' depth (renderFields depth fields)
  | unnamed => "null".toList

def renderItems (depth : Nat) : List Json → List Text
  | [] => []
  | j :: r => render (depth + 1) j :: renderItems depth r

def renderFields (depth : Nat) : List (Text × Json) → List Text
  | [] => []
  | (name, j) :: r => (quote name ++ ':' :: ' ' :: render (depth + 1) j) :: renderFields depth r

end

def pretty (j : Json) : Text := render 0 j

end Json

end Toolpath
