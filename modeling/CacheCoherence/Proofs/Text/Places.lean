import CacheCoherence.Proofs.Text.Trim
import CacheCoherence.Text.Bytes

/-!
# Places of words

The leftmost occurrence of a word in a text is described by what stands in front of it and
behind it.  A search that counts bytes finds its place, and the text can be cut there and
behind the word, as both places are between two characters.  The same holds of the end of
the digits that a text begins with.
-/

namespace CacheCoherence.Text

/-- The word occurs behind `front` and nowhere further left; `rest` follows it. -/
structure IsLeftmost (word text front rest : Text) : Prop where
  text_eq : text = front ++ (word ++ rest)
  length_le : ∀ before behind, text = before ++ (word ++ behind) → front.length ≤ before.length

/-- The place where the leftmost occurrence of a word begins. -/
def placeOf? (word : Text) : Text → Option Nat
  | [] => if word = [] then some 0 else none
  | c :: tail =>
    if word.isPrefixOf (c :: tail) then some 0
    else (placeOf? word tail).map (c.utf8Size + ·)

/-- The place where the digits end that a text begins with. -/
def digitsEnd : Text → Nat
  | [] => 0
  | c :: rest => if c.isDigit then c.utf8Size + digitsEnd rest else 0

variable {word text front rest : Text}

/-! ## The leftmost occurrence -/

theorem isLeftmost_prefix_iff (hstarts : word <+: text) :
    IsLeftmost word text front rest ↔ front = [] ∧ text = word ++ rest := by
  constructor
  · rintro ⟨htext, hfirst⟩
    obtain ⟨behind, rfl⟩ := hstarts
    have hfront : front = [] := List.length_eq_zero_iff.mp (Nat.le_zero.mp (hfirst [] behind rfl))
    rw [hfront] at htext
    exact ⟨hfront, htext⟩
  · rintro ⟨rfl, htext⟩
    exact ⟨htext, fun _ _ _ => Nat.zero_le _⟩

theorem isLeftmost_cons_iff {c : Char} (hstarts : ¬word <+: c :: text) :
    IsLeftmost word (c :: text) front rest ↔
      ∃ tail, front = c :: tail ∧ IsLeftmost word text tail rest := by
  -- No occurrence begins with the first character, so each is one of the rest.
  have hshift : ∀ before behind, c :: text = before ++ (word ++ behind) →
      ∃ tail, before = c :: tail ∧ text = tail ++ (word ++ behind) := by
    intro before behind h
    rcases List.cons_eq_append_iff.mp h with ⟨-, hword⟩ | ⟨tail, hbefore, htext⟩
    · exact absurd ⟨behind, hword⟩ hstarts
    · exact ⟨tail, hbefore, htext⟩
  constructor
  · rintro ⟨htext, hfirst⟩
    obtain ⟨tail, rfl, hrest⟩ := hshift front rest htext
    refine ⟨tail, rfl, hrest, fun before behind h => ?_⟩
    have hlength := hfirst (c :: before) behind (congrArg (List.cons c) h)
    simpa using hlength
  · rintro ⟨tail, rfl, htext, hfirst⟩
    refine ⟨congrArg (List.cons c) htext, fun before behind h => ?_⟩
    obtain ⟨tail', rfl, hbehind⟩ := hshift before behind h
    simpa using hfirst tail' behind hbehind

theorem not_isLeftmost_nil (hstarts : ¬word <+: []) : ¬IsLeftmost word [] front rest := by
  rintro ⟨htext, -⟩
  simp only [List.nil_eq, List.append_eq_nil_iff] at htext
  exact hstarts (htext.2.1 ▸ List.nil_prefix)

theorem exists_isLeftmost (hoccurs : word <:+: text) :
    ∃ front rest, IsLeftmost word text front rest := by
  induction text with
  | nil =>
      rw [List.infix_nil] at hoccurs
      subst hoccurs
      exact ⟨[], [], (isLeftmost_prefix_iff List.nil_prefix).mpr ⟨rfl, rfl⟩⟩
  | cons c tail ih =>
      by_cases hstarts : word <+: c :: tail
      · obtain ⟨rest, hrest⟩ := hstarts
        exact ⟨[], rest, (isLeftmost_prefix_iff ⟨rest, hrest⟩).mpr ⟨rfl, hrest.symm⟩⟩
      · obtain ⟨front, rest, h⟩ := ih ((List.infix_cons_iff.mp hoccurs).resolve_left hstarts)
        exact ⟨c :: front, rest, (isLeftmost_cons_iff hstarts).mpr ⟨front, rfl, h⟩⟩

/-! ## Searches -/

theorem IsLeftmost.behind?_eq (h : IsLeftmost word text front rest) :
    behind? word text = some rest := by
  induction text generalizing front with
  | nil =>
      by_cases hstarts : word <+: []
      · obtain ⟨rfl, htext⟩ := (isLeftmost_prefix_iff hstarts).mp h
        rw [htext, behind?_append]
      · exact absurd h (not_isLeftmost_nil hstarts)
  | cons c tail ih =>
      by_cases hstarts : word <+: c :: tail
      · obtain ⟨rfl, htext⟩ := (isLeftmost_prefix_iff hstarts).mp h
        rw [htext, behind?_append]
      · obtain ⟨front, rfl, hrest⟩ := (isLeftmost_cons_iff hstarts).mp h
        have hnone : word.isPrefixOf? (c :: tail) = none := by
          rwa [← Option.not_isSome_iff_eq_none, isSome_isPrefixOf?_iff]
        rw [behind?, hnone]
        exact ih hrest

theorem IsLeftmost.placeOf?_eq (h : IsLeftmost word text front rest) :
    placeOf? word text = some (byteSize front) := by
  induction text generalizing front with
  | nil =>
      by_cases hstarts : word <+: []
      · obtain ⟨rfl, -⟩ := (isLeftmost_prefix_iff hstarts).mp h
        exact if_pos (List.prefix_nil.mp hstarts)
      · exact absurd h (not_isLeftmost_nil hstarts)
  | cons c tail ih =>
      by_cases hstarts : word <+: c :: tail
      · obtain ⟨rfl, -⟩ := (isLeftmost_prefix_iff hstarts).mp h
        exact if_pos (List.isPrefixOf_iff_prefix.mpr hstarts)
      · obtain ⟨front, rfl, hrest⟩ := (isLeftmost_cons_iff hstarts).mp h
        rw [placeOf?, if_neg (mt List.isPrefixOf_iff_prefix.mp hstarts), ih hrest]
        rfl

theorem placeOf?_eq_none (hoccurs : ¬word <:+: text) : placeOf? word text = none := by
  induction text with
  | nil =>
      rw [List.infix_nil] at hoccurs
      exact if_neg hoccurs
  | cons c tail ih =>
      rw [List.infix_cons_iff, not_or] at hoccurs
      rw [placeOf?, if_neg (mt List.isPrefixOf_iff_prefix.mp hoccurs.1), ih hoccurs.2]
      rfl

theorem behind?_eq_none (hoccurs : ¬word <:+: text) : behind? word text = none := by
  rw [← contains_iff, contains] at hoccurs
  exact Option.not_isSome_iff_eq_none.mp hoccurs

/-! ## Cuts -/

/-- The text can be cut behind the leftmost occurrence of a word. -/
theorem IsLeftmost.cutAt?_eq (h : IsLeftmost word text front rest) :
    cutAt? text (byteSize front + byteSize word) = some (front ++ word, rest) := by
  rw [cutAt?_eq_some_iff, byteSize_append, h.text_eq, List.append_assoc]
  exact ⟨rfl, rfl⟩

theorem digitsEnd_eq (text : Text) : digitsEnd text = byteSize (text.takeWhile Char.isDigit) := by
  induction text with
  | nil => rfl
  | cons c rest ih =>
      by_cases hc : c.isDigit = true
      · rw [digitsEnd, if_pos hc, ih, List.takeWhile_cons_of_pos hc, byteSize]
      · rw [digitsEnd, if_neg hc, List.takeWhile_cons_of_neg hc, byteSize]

/-- The text can be cut behind the digits that it begins with. -/
theorem cutAt?_digitsEnd (text : Text) :
    cutAt? text (digitsEnd text) =
      some (text.takeWhile Char.isDigit, text.dropWhile Char.isDigit) := by
  rw [cutAt?_eq_some_iff, digitsEnd_eq]
  exact ⟨List.takeWhile_append_dropWhile.symm, rfl⟩

end CacheCoherence.Text
