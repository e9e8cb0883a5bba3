import CacheCoherence.Proofs.Text.Trim
import Mathlib.Data.List.Induction
import Mathlib.Data.Nat.Digits.Defs

/-!
# Numerals and numerals inside a text

A numeral is a row of digits, at least one, of which the last counts once and each other
one ten times as much as the next.  Numbers of a bounded width are read from the numerals
of the numbers that fit, leading zeros or not.

A written numeral tells its number also where other characters follow, provided that the
next one is no digit.
-/

namespace CacheCoherence.Text

/-! ## The value of a numeral -/

def decimalDigit (c : Char) : Nat :=
  c.toNat - '0'.toNat

/-- A decimal numeral with this value. -/
structure IsNumeral (text : Text) (value : Nat) : Prop where
  ne_nil : text ≠ []
  isDigit : ∀ c ∈ text, c.isDigit = true
  value_eq : Nat.ofDigits 10 (text.reverse.map decimalDigit) = value

/-- A numeral with this value, which may carry one plus sign. -/
def IsSignedNumeral (text : Text) (value : Nat) : Prop :=
  ∃ digits, (text = digits ∨ text = '+' :: digits) ∧ IsNumeral digits value

theorem ofDigitChars_eq_ofDigits (text : Text) :
    Nat.ofDigitChars 10 text 0 = Nat.ofDigits 10 (text.reverse.map decimalDigit) := by
  induction text using List.reverseRecOn with
  | nil => rfl
  | append_singleton front c ih =>
      rw [Nat.ofDigitChars_append, ih, Nat.ofDigitChars_cons, Nat.ofDigitChars_nil,
        List.reverse_concat, List.map_cons, Nat.ofDigits_cons, Nat.add_comm, decimalDigit]

theorem numeral?_eq_some_iff {text : Text} {value : Nat} :
    numeral? text = some value ↔ IsNumeral text value := by
  rw [numeral?, Option.ite_none_right_eq_some, Option.some.injEq, List.all_eq_true,
    ofDigitChars_eq_ofDigits]
  constructor
  · rintro ⟨⟨hne, hdigits⟩, hvalue⟩
    exact ⟨hne, hdigits, hvalue⟩
  · rintro ⟨hne, hdigits, hvalue⟩
    exact ⟨⟨hne, hdigits⟩, hvalue⟩

theorem isNumeral_toDigits (n : Nat) : IsNumeral (Nat.toDigits 10 n) n :=
  numeral?_eq_some_iff.mp (numeral?_toDigits n)

theorem word32?_eq_some_iff {text : Text} {word : UInt32} :
    word32? text = some word ↔ IsNumeral text word.toNat := by
  rw [← numeral?_eq_some_iff, word32?]
  cases numeral? text with
  | none => simp
  | some value =>
      simp only [Option.bind_eq_bind, Option.bind_some, Option.ite_none_right_eq_some,
        Option.some.injEq]
      constructor
      · rintro ⟨hlt, rfl⟩
        exact (UInt32.toNat_ofNat_of_lt hlt).symm
      · rintro rfl
        exact ⟨word.toNat_lt, UInt32.ofNat_toNat⟩

theorem isSignedNumeral_iff {text : Text} {value : Nat} :
    IsSignedNumeral text value ↔ IsNumeral (unsigned text) value := by
  constructor
  · rintro ⟨digits, rfl | rfl, hdigits⟩
    · -- A numeral does not begin with a sign, so nothing is taken from it.
      unfold unsigned
      split
      next rest => exact absurd (hdigits.isDigit '+' List.mem_cons_self) (by decide)
      next => exact hdigits
    · exact hdigits
  · intro h
    unfold unsigned at h
    split at h
    next rest => exact ⟨rest, Or.inr rfl, h⟩
    next => exact ⟨text, Or.inl rfl, h⟩

theorem word64?_eq_some_iff {text : Text} {word : UInt64} :
    word64? text = some word ↔ IsSignedNumeral text word.toNat := by
  rw [isSignedNumeral_iff, ← numeral?_eq_some_iff, word64?]
  cases numeral? (unsigned text) with
  | none => simp
  | some value =>
      simp only [Option.bind_eq_bind, Option.bind_some, Option.ite_none_right_eq_some,
        Option.some.injEq]
      constructor
      · rintro ⟨hlt, rfl⟩
        exact (UInt64.toNat_ofNat_of_lt hlt).symm
      · rintro rfl
        exact ⟨word.toNat_lt, UInt64.ofNat_toNat⟩

/-! ## Numerals in front of a text -/

/-- A numeral in front of this text ends where the text begins. -/
def EndsNumeral (text : Text) : Prop :=
  ∀ c, text.head? = some c → c.isDigit = false

theorem endsNumeral_nil : EndsNumeral [] := nofun

theorem endsNumeral_cons {c : Char} (hc : c.isDigit = false) (rest : Text) :
    EndsNumeral (c :: rest) := by
  rintro _ ⟨⟩
  exact hc

theorem takeWhile_isDigit_toDigits_append
    (n : Nat) {rest : Text} (hrest : EndsNumeral rest) :
    (Nat.toDigits 10 n ++ rest).takeWhile Char.isDigit = Nat.toDigits 10 n := by
  have hnone : rest.takeWhile Char.isDigit = [] := by
    cases rest with
    | nil => rfl
    | cons c rest => exact List.takeWhile_cons_of_neg (by simp [hrest c rfl])
  rw [List.takeWhile_append_of_pos fun _ => isDigit_of_mem_toDigits, hnone, List.append_nil]

theorem toDigits_injective : Function.Injective (Nat.toDigits 10) := by
  intro n m h
  have hvalue : numeral? (Nat.toDigits 10 n) = some m := by
    rw [h, numeral?_toDigits]
  rw [numeral?_toDigits] at hvalue
  exact Option.some.inj hvalue

theorem repr_injective : Function.Injective Nat.repr := by
  intro n m h
  have hdigits := congrArg String.toList h
  rw [Nat.toList_repr, Nat.toList_repr] at hdigits
  exact toDigits_injective hdigits

theorem toDigits_append_inj
    {n m : Nat} {rest other : Text} (hrest : EndsNumeral rest) (hother : EndsNumeral other)
    (h : Nat.toDigits 10 n ++ rest = Nat.toDigits 10 m ++ other) : n = m ∧ rest = other := by
  have hdigits : Nat.toDigits 10 n = Nat.toDigits 10 m := by
    rw [← takeWhile_isDigit_toDigits_append n hrest, h,
      takeWhile_isDigit_toDigits_append m hother]
  rw [hdigits] at h
  exact ⟨toDigits_injective hdigits, List.append_cancel_left h⟩

/-- A numeral is found again in front of a word that does not begin with a digit. -/
theorem toDigits_append_word_inj
    {n m : Nat} {word rest other : Text} (hword : word.head?.map Char.isDigit = some false)
    (h : Nat.toDigits 10 n ++ (word ++ rest) = Nat.toDigits 10 m ++ (word ++ other)) :
    n = m ∧ rest = other := by
  cases word with
  | nil => cases hword
  | cons c word =>
      have hc : c.isDigit = false := Option.some.inj hword
      obtain ⟨hnumber, hbehind⟩ := toDigits_append_inj (endsNumeral_cons hc (word ++ rest))
        (endsNumeral_cons hc (word ++ other)) h
      exact ⟨hnumber, List.append_cancel_left (List.tail_eq_of_cons_eq hbehind)⟩

end CacheCoherence.Text
