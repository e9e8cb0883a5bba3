import CacheCoherence.Json.Quoted
import CacheCoherence.Proofs.Parts
import CacheCoherence.Text.Blank

/-!
# Strings that are found again

Each character of a string is written so that it can be taken off the text again,
whatever follows, and none is written with a quotation mark in front.  A quoted string
therefore ends at the first mark that is met between characters, and different strings
are never written alike.
-/

namespace CacheCoherence.Json

/-! ## One character -/

/-- The character that a letter behind a backslash stands for. -/
def charOfLetter (letter : Char) : Char :=
  if letter = 'n' then '\n'
  else if letter = 'r' then '\r'
  else if letter = 't' then '\t'
  else if letter = 'b' then '\x08'
  else if letter = 'f' then '\x0c'
  else letter

/-- The value of a hexadecimal digit. -/
def digitValue (digit : Char) : Nat :=
  if digit.isDigit then digit.toNat - '0'.toNat else digit.toNat - 'a'.toNat + 10

/-- Takes a written character off a text. -/
def readChar? : Text → Option (Char × Text)
  | '\\' :: 'u' :: '0' :: '0' :: high :: low :: rest =>
    some (Char.ofNat (16 * digitValue high + digitValue low), rest)
  | '\\' :: letter :: rest => some (charOfLetter letter, rest)
  | c :: rest => some (c, rest)
  | [] => none

theorem digitValue_digitChar {n : Nat} (hn : n < 16) : digitValue (Nat.digitChar n) = n := by
  revert n
  decide

theorem readChar?_letter {letter : Char} (hletter : letter ≠ 'u') (rest : Text) :
    readChar? ('\\' :: letter :: rest) = some (charOfLetter letter, rest) := by
  unfold readChar?
  split
  next heq =>
    cases heq
    exact absurd rfl hletter
  next heq =>
    cases heq
    rfl
  next hplain heq =>
    cases heq
    exact absurd rfl (hplain letter rest rfl)
  next heq => cases heq

theorem readChar?_plain {c : Char} (hc : c ≠ '\\') (rest : Text) :
    readChar? (c :: rest) = some (c, rest) := by
  unfold readChar?
  split
  next heq =>
    cases heq
    exact absurd rfl hc
  next heq =>
    cases heq
    exact absurd rfl hc
  next heq =>
    cases heq
    rfl
  next heq => cases heq

theorem charOfLetter_of_controlLetter?
    {c letter : Char} (h : controlLetter? c = some letter) :
    charOfLetter letter = c ∧ letter ≠ 'u' := by
  unfold controlLetter? at h
  repeat' split at h
  all_goals cases h
  all_goals subst_vars
  all_goals decide

theorem readChar?_escaped (c : Char) (rest : Text) :
    readChar? (escaped c ++ rest) = some (c, rest) := by
  unfold escaped
  split
  next hmark =>
    rcases hmark with rfl | rfl
    · rfl
    · rfl
  next hmark =>
    split
    next letter hletter =>
      obtain ⟨hchar, hne⟩ := charOfLetter_of_controlLetter? hletter
      exact hchar ▸ readChar?_letter hne rest
    next =>
      split
      next hcontrol =>
        have hcode : 16 * digitValue (Nat.digitChar (c.toNat / 16)) +
            digitValue (Nat.digitChar (c.toNat % 16)) = c.toNat := by
          rw [digitValue_digitChar (by omega), digitValue_digitChar (by omega)]
          omega
        simp [readChar?, hcode]
      next => exact readChar?_plain (fun hslash => hmark (Or.inr hslash)) rest

theorem escaped_append_inj
    {c d : Char} {rest other : Text} (h : escaped c ++ rest = escaped d ++ other) :
    c = d ∧ rest = other := by
  have hread : some (c, rest) = some (d, other) := by
    rw [← readChar?_escaped, h, readChar?_escaped]
  exact Prod.mk.inj (Option.some.inj hread)

/-- No character is written with a quotation mark in front. -/
theorem escaped_append_ne_mark (c : Char) (rest other : Text) :
    escaped c ++ rest ≠ '"' :: other := by
  intro h
  have hmark : c = '"' ∧ rest = other := by
    have hread : some (c, rest) = some ('"', other) := by
      rw [← readChar?_escaped, h, readChar?_plain (by decide)]
    exact Prod.mk.inj (Option.some.inj hread)
  rw [hmark.1] at h
  cases h

/-! ## Whole strings -/

theorem flatMap_escaped_append_inj
    {s t : List Char} {rest other : Text}
    (h : s.flatMap escaped ++ '"' :: rest = t.flatMap escaped ++ '"' :: other) :
    s = t ∧ rest = other :=
  flatMap_append_cons_inj escaped_append_inj escaped_append_ne_mark h

theorem toList_quoted_append (s : String) (rest : Text) :
    (quoted s).toList ++ rest = '"' :: (s.toList.flatMap escaped ++ '"' :: rest) := by
  simp [quoted]

/-- Strings are written differently when they are different, whatever follows. -/
theorem quoted_append_inj
    {s t : String} {rest other : Text}
    (h : (quoted s).toList ++ rest = (quoted t).toList ++ other) : s = t ∧ rest = other := by
  rw [toList_quoted_append, toList_quoted_append] at h
  obtain ⟨hchars, hrest⟩ := flatMap_escaped_append_inj (List.tail_eq_of_cons_eq h)
  exact ⟨String.toList_inj.mp hchars, hrest⟩

end CacheCoherence.Json
