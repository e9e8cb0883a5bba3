import CacheCoherence.Text.Blank

/-!
# Decimal numerals

A numeral is a non-empty string of ASCII digits; leading zeros are allowed and
digits of other scripts are not.  Numbers of bounded width refuse numerals whose
value does not fit.
-/

namespace CacheCoherence.Text

def numeral? (text : Text) : Option Nat :=
  if text ≠ [] ∧ text.all Char.isDigit = true then
    some (Nat.ofDigitChars 10 text 0)
  else
    none

/-- The value of a numeral below `2 ^ 32`. -/
def word32? (text : Text) : Option UInt32 := do
  let value ← numeral? text
  if value < UInt32.size then some (UInt32.ofNat value) else none

/-- The text behind a single leading plus sign, or the whole text. -/
def unsigned : Text → Text
  | '+' :: rest => rest
  | text => text

/-- The value of a numeral below `2 ^ 64`, which may carry one plus sign. -/
def word64? (text : Text) : Option UInt64 := do
  let value ← numeral? (unsigned text)
  if value < UInt64.size then some (UInt64.ofNat value) else none

theorem numeral?_toDigits (n : Nat) : numeral? (Nat.toDigits 10 n) = some n := by
  have h : (Nat.toDigits 10 n).all Char.isDigit = true :=
    List.all_eq_true.2 fun c hc => Nat.isDigit_of_mem_toDigits (by decide) (by decide) hc
  simp [numeral?, h, Nat.toDigits_ne_nil, Nat.ofDigitChars_ten_toDigits]

example : word64? ['+', '0', '7'] = some 7 := by decide

example : word64? ['+'] = none := by decide

end CacheCoherence.Text
