/-!
# Quoted strings

A string is written between quotation marks.  The mark itself and the backslash
are written behind a backslash, five control characters have a letter of their
own, the other characters below the space are written by their code, and every
remaining character stands for itself.
-/

namespace CacheCoherence.Json

/-- The letter that stands for a control character behind a backslash. -/
def controlLetter? (c : Char) : Option Char :=
  if c = '\n' then some 'n'
  else if c = '\r' then some 'r'
  else if c = '\t' then some 't'
  else if c = '\x08' then some 'b'
  else if c = '\x0c' then some 'f'
  else none

/-- How one character is written inside a quoted string. -/
def escaped (c : Char) : List Char :=
  if c = '"' ∨ c = '\\' then ['\\', c]
  else match controlLetter? c with
    | some letter => ['\\', letter]
    | none =>
      if c.toNat < 0x20 then
        ['\\', 'u', '0', '0', Nat.digitChar (c.toNat / 16), Nat.digitChar (c.toNat % 16)]
      else [c]

def quoted (s : String) : String :=
  "\"" ++ String.ofList (s.toList.flatMap escaped) ++ "\""

example : escaped '\x1f' = ['\\', 'u', '0', '0', '1', 'f'] := by decide

example : escaped '\x7f' = ['\x7f'] := by decide

end CacheCoherence.Json
