import Toolpath.Text.WordChar
import Toolpath.Text.Break
import Toolpath.Text.Script
import Toolpath.Text.Age

/-!
Sets of characters as a pattern writes them: classes of one letter, by name, by property, and with the
other cases of their letters.
-/

namespace Toolpath.Pattern.Class

open Text (Ranges)

def asciiDigit : Ranges := .range 0x30 0x39

def asciiUpper : Ranges := .range 0x41 0x5A

def asciiLower : Ranges := .range 0x61 0x7A

def asciiLetter : Ranges := asciiUpper.union asciiLower

def asciiWord : Ranges := .unionAll [asciiLetter, asciiDigit, .range 0x5F 0x5F]

def asciiSpace : Ranges := (Ranges.range 9 13).union (.range 0x20 0x20)

def isAscii (k : Ranges) : Bool := k.toList.all (·.2 < 128)

def letter (c : Char) : Ranges := .ofChars (Text.variants c)

def foldPairs : List (Nat × Nat) :=
  Text.foldRuns.flatMap fun r =>
    (List.range ((r.last - r.first) / r.step + 1)).map fun k =>
      let n := r.first + r.step * k
      (n, r.apply n)

def ofUnordered (l : List Nat) : Ranges := .ofAscending ((l.mergeSort (· ≤ ·)).map fun n => (n, n))

def anyCase (k : Ranges) : Ranges :=
  let folded := ofUnordered (foldPairs.filterMap fun (n, f) => if k.has n || k.has f then some f else none)
  let others := ofUnordered (foldPairs.filterMap fun (n, f) => if folded.has f then some n else none)
  .unionAll [k, folded, others]

def shift (d : Int) (k : Ranges) : Ranges :=
  .ofAscending (k.toList.map fun r => ((r.1 + d).toNat, (r.2 + d).toNat))

def anyAsciiCase (k : Ranges) : Ranges :=
  .unionAll [k, shift (-32) (k.inter asciiLower), shift 32 (k.inter asciiUpper)]

def named? (name : String) : Option Ranges :=
  match name with
  | "alnum" => some (asciiLetter.union asciiDigit)
  | "alpha" => some asciiLetter
  | "ascii" => some (.range 0 0x7F)
  | "blank" => some (.ofChars ['\t', ' '])
  | "cntrl" => some (.ofTable "0-1F 7F")
  | "digit" => some asciiDigit
  | "graph" => some (.range 0x21 0x7E)
  | "lower" => some asciiLower
  | "print" => some (.range 0x20 0x7E)
  | "punct" => some (.ofTable "21-2F 3A-40 5B-60 7B-7E")
  | "space" => some asciiSpace
  | "upper" => some asciiUpper
  | "word" => some asciiWord
  | "xdigit" => some (.ofTable "30-39 41-46 61-66")
  | _ => none

def property? (name : String) : Option Ranges :=
  (Text.Property.named? name).or ((Text.Category.named? name).or
    ((Text.Script.named? name).map (·.ranges)))

def valued? (property value : String) : Option Ranges :=
  match property with
  | "gc" | "generalcategory" => Text.Category.named? value
  | "sc" | "script" => (Text.Script.named? value).map (·.ranges)
  | "scx" | "scriptextensions" => (Text.Script.named? value).map (·.extended)
  | "age" => Text.Version.named? value.toList
  | "gcb" | "graphemeclusterbreak" => Text.Break.grapheme? value
  | "wb" | "wordbreak" => Text.Break.word? value
  | "sb" | "sentencebreak" => Text.Break.sentence? value
  | _ => none

end Toolpath.Pattern.Class
