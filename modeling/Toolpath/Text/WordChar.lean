import Toolpath.Text.Property

/-!
Word characters: letters, marks, decimal digits, connecting punctuation and the two joiners.
-/

namespace Toolpath.Text

def isWordChar (c : Char) : Bool :=
  if c.toNat < 128 then isAsciiLetter c || isAsciiDigit c || c = '_' else Property.word.contains c

end Toolpath.Text
