import CacheCoherence.Pattern.Basic

/-!
# Values that can be asked for

A log directive can ask for the value of a field, which is then a number or a
pattern.  Almost every number is a pattern as well; the exception is a number
with a plus sign in front, where a pattern would lack something to repeat.
-/

namespace CacheCoherence.Pattern

/-- Whether a text is a decimal fraction without a sign, which has a digit in front
of its point or behind it. -/
def isFraction (text : Text) : Bool :=
  let whole := text.takeWhile Char.isDigit
  match text.dropWhile Char.isDigit with
  | [] => whole ≠ []
  | '.' :: decimals => decimals.all Char.isDigit && (whole ≠ [] || decimals ≠ [])
  | _ => false

/-- Whether a text is an exponent without its letter. -/
def isExponent (text : Text) : Bool :=
  let digits :=
    match text with
    | '+' :: rest => rest
    | '-' :: rest => rest
    | _ => text
  digits ≠ [] && digits.all Char.isDigit

/-- Whether a text is a number without a sign; infinity and what is not a number
count as numbers. -/
def isUnsignedNumber (text : Text) : Bool :=
  let mantissa := text.takeWhile fun c => c.toLower != 'e'
  String.ofList (text.map Char.toLower) ∈ ["inf", "infinity", "nan"] ||
    match text.dropWhile fun c => c.toLower != 'e' with
    | [] => isFraction mantissa
    | _ :: exponent => isFraction mantissa && isExponent exponent

/-- Whether a text is a value that a directive can ask for. -/
def isFieldValue (text : Text) : Bool :=
  isPattern text ||
    match text with
    | '+' :: number => isUnsignedNumber number
    | _ => false

example : isFieldValue ['+', '1', 'e', '5'] = true := by decide

end CacheCoherence.Pattern
