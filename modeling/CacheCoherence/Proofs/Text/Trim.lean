import CacheCoherence.Text.Numeral
import CacheCoherence.Text.Search

/-!
# Trimming and decimal digits

White space at the two ends of a text does not matter to `trim`, and a text whose
first and last characters are not white space is left as it is.  Decimal digits
are such characters, and numerals consist of them.
-/

namespace CacheCoherence.Text

/-! ## White space at the ends -/

theorem trimStart_append {front : Text} (hfront : ∀ c ∈ front, isBlank c = true)
    (text : Text) : trimStart (front ++ text) = trimStart text :=
  List.dropWhile_append_of_pos hfront

theorem trimEnd_append {back : Text} (hback : ∀ c ∈ back, isBlank c = true)
    (text : Text) : trimEnd (text ++ back) = trimEnd text := by
  have hreverse : ∀ c ∈ back.reverse, isBlank c = true := by
    intro c hc
    exact hback c (List.mem_reverse.mp hc)
  rw [trimEnd, List.reverse_append, List.dropWhile_append_of_pos hreverse, trimEnd]

theorem trimStart_cons {first : Char} (hfirst : isBlank first = false) (rest : Text) :
    trimStart (first :: rest) = first :: rest :=
  List.dropWhile_cons_of_neg (by simp [hfirst])

theorem trimEnd_append_singleton {last : Char} (hlast : isBlank last = false)
    (front : Text) : trimEnd (front ++ [last]) = front ++ [last] := by
  rw [trimEnd, List.reverse_append, List.reverse_singleton, List.singleton_append,
    List.dropWhile_cons_of_neg (by simp [hlast]), List.reverse_cons, List.reverse_reverse]

/-- What is left without white space stands in the text as it is. -/
theorem trim_isInfix (text : Text) : trim text <:+: text := by
  have hstart : trimStart text <:+ text := List.dropWhile_suffix isBlank
  have hend : trimEnd (trimStart text) <+: trimStart text := by
    rw [← List.reverse_suffix, trimEnd, List.reverse_reverse]
    exact List.dropWhile_suffix isBlank
  exact hend.isInfix.trans hstart.isInfix

/-! ## Words -/

theorem behind?_append (word rest : Text) : behind? word (word ++ rest) = some rest := by
  rw [behind?.eq_def, isPrefixOf?_eq_some_iff.mpr rfl]

/-! ## Digits -/

theorem isBlank_eq_false_of_isDigit {c : Char} (hc : c.isDigit = true) :
    isBlank c = false := by
  have hbounds := Char.isDigit_iff_toNat.mp hc
  have hlow : '0'.toNat = 48 := rfl
  have hhigh : '9'.toNat = 57 := rfl
  simp only [isBlank, blankRanges, List.any_cons, List.any_nil, Bool.or_false,
    Bool.or_eq_false_iff, Bool.and_eq_false_iff, decide_eq_false_iff_not]
  omega

theorem isDigit_of_mem_toDigits {n : Nat} {c : Char} (hc : c ∈ Nat.toDigits 10 n) :
    c.isDigit = true :=
  Nat.isDigit_of_mem_toDigits (by decide) (by decide) hc

theorem not_mem_toDigits {c : Char} (hc : c.isDigit = false) (n : Nat) :
    c ∉ Nat.toDigits 10 n := by
  intro hmem
  rw [isDigit_of_mem_toDigits hmem] at hc
  cases hc

end CacheCoherence.Text
