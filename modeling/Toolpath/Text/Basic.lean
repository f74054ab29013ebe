/-!
Texts as lists of characters: blanks, trimming, words and lines. Every line number of the library
counts the pieces of `Text.lines`, and every offset counts characters.
-/

namespace Toolpath

abbrev Text := List Char

namespace Text

def isBlank (c : Char) : Bool :=
  let n := c.toNat
  (9 ≤ n && n ≤ 13) || n = 0x20 || n = 0x85 || n = 0xA0 || n = 0x1680 || (0x2000 ≤ n && n ≤ 0x200A) ||
    n = 0x2028 || n = 0x2029 || n = 0x202F || n = 0x205F || n = 0x3000

def trimStart (t : Text) : Text := t.dropWhile isBlank

def trimEnd (t : Text) : Text := (t.reverse.dropWhile isBlank).reverse

def trim (t : Text) : Text := trimEnd (trimStart t)

def words : Text → List Text
  | [] => []
  | c :: r =>
    if isBlank c then words r
    else match r with
      | [] => [[c]]
      | d :: _ => if isBlank d then [c] :: words r else (words r).modifyHead (c :: ·)

def lines : Text → List Text
  | [] => [[]]
  | c :: r => if c = '\n' then [] :: lines r else (lines r).modifyHead (c :: ·)

def join (sep : Text) : List Text → Text
  | [] => []
  | [t] => t
  | t :: u :: r => t ++ sep ++ join sep (u :: r)

def unlines : List Text → Text := join ['\n']

def lowerAscii (c : Char) : Char := if 'A' ≤ c ∧ c ≤ 'Z' then Char.ofNat (c.toNat + 32) else c

def upperAscii (c : Char) : Char := if 'a' ≤ c ∧ c ≤ 'z' then Char.ofNat (c.toNat - 32) else c

def isAsciiLetter (c : Char) : Bool := ('A' ≤ c && c ≤ 'Z') || ('a' ≤ c && c ≤ 'z')

def isAsciiDigit (c : Char) : Bool := '0' ≤ c && c ≤ '9'

def ofNat (n : Nat) : Text := Nat.toDigits 10 n

theorem lines_ne_nil (t : Text) : lines t ≠ [] := by
  cases t with
  | nil => simp [lines]
  | cons c r =>
    simp only [lines]
    split
    · simp
    · have := lines_ne_nil r
      cases h : lines r <;> simp_all

theorem unlines_lines (t : Text) : unlines (lines t) = t := by
  induction t with
  | nil => rfl
  | cons c r ih =>
    have h := lines_ne_nil r
    simp only [lines, unlines] at ih ⊢
    cases hr : lines r with
    | nil => exact absurd hr h
    | cons l ls =>
      rw [hr] at ih
      split
      · rename_i hc
        simp [join, ih, hc]
      · cases ls with
        | nil => simpa [join] using ih
        | cons m ms => simpa [join] using ih

end Text

end Toolpath
