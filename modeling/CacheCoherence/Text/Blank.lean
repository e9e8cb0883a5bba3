/-!
# White space

Texts are handled as lists of characters.  This file fixes which characters
count as white space and removes them from the two ends of a text.  The table
holds the twenty-five code points with the Unicode property `White_Space`, which
is more than the four ASCII blanks and less than everything invisible: joiners
and byte-order marks are ordinary characters here.
-/

namespace CacheCoherence

/-- A line, or a part of one, as the list of its characters. -/
abbrev Text := List Char

namespace Text

/-- The code points of white space, as closed ranges in increasing order. -/
def blankRanges : List (Nat × Nat) :=
  [(0x0009, 0x000D), (0x0020, 0x0020), (0x0085, 0x0085), (0x00A0, 0x00A0),
    (0x1680, 0x1680), (0x2000, 0x200A), (0x2028, 0x2029), (0x202F, 0x202F),
    (0x205F, 0x205F), (0x3000, 0x3000)]

example : (blankRanges.map fun range => range.2 + 1 - range.1).sum = 25 := by
  decide

def isBlank (c : Char) : Bool :=
  blankRanges.any fun range => range.1 ≤ c.toNat && c.toNat ≤ range.2

def trimStart (text : Text) : Text :=
  text.dropWhile isBlank

def trimEnd (text : Text) : Text :=
  (text.reverse.dropWhile isBlank).reverse

def trim (text : Text) : Text :=
  trimEnd (trimStart text)

end Text

end CacheCoherence
