import CacheCoherence.Dump.LineKind
import CacheCoherence.Proofs.Text.Numeral
import CacheCoherence.Proofs.Text.Places

/-!
# Header lines

A line without markers that does not begin with the record word is judged by the leftmost
header word in it: when a numeral of the right width and a colon follow, it is the header
of a cache, when something else follows it is a header that is not well formed, and without
the header word it is neither.

A text is stored in bytes, where the header word and the end of the numeral have their
places.  Finding them and cutting the line there is a second way to the same kind: no cut
falls within a character or behind the end of the text.
-/

namespace CacheCoherence.Dump

open Text

/-- A line, without white space at its ends, that is judged by the header word. -/
structure IsUnmarked (line : Text) : Prop where
  ne_nil : line ≠ []
  no_opening : ¬sectionOpening.toList <:+: line
  no_closing : ¬sectionClosing.toList <:+: line
  no_record : ¬recordWord.toList <+: line

/-- The leftmost header word of the line is followed by a numeral of at most thirty-two
bits with this value and a colon. -/
def IsHeaderOf (number : Nat) (line : Text) : Prop :=
  ∃ front digits rest, IsLeftmost headerWord.toList line front (digits ++ ':' :: rest) ∧
    IsNumeral digits number ∧ number < 2 ^ 32

/-- The kind of a line with the header word, for what is read behind it. -/
def LineKind.ofHeaderId : Option CacheId → LineKind
  | some id => header id
  | none => malformedHeader

/-- The identifier at the start of a text, found by the place where its digits end.  There
is no answer when the text cannot be cut there. -/
def headerIdAt? (text : Text) : Option (Option CacheId) :=
  if digitsEnd text = 0 then some none
  else
    (cutAt? text (digitsEnd text)).map fun parts =>
      if parts.2.head? = some ':' then (word32? parts.1).map CacheId.mk else none

/-- The kind that a line has for its header word, found by the place of this word.  There
is no answer when the line or what follows the word cannot be cut. -/
def headerKindAt? (line : Text) : Option LineKind :=
  match placeOf? headerWord.toList line with
  | none => some .other
  | some place =>
    (cutAt? line (place + byteSize headerWord.toList)).bind fun parts =>
      (headerIdAt? parts.2).map LineKind.ofHeaderId

/-! ## Identifiers -/

theorem headerId?_eq_some_iff {text : Text} {id : CacheId} :
    headerId? text = some id ↔
      ∃ digits rest, text = digits ++ ':' :: rest ∧ IsNumeral digits id.number.toNat := by
  constructor
  · intro h
    unfold headerId? at h
    split at h
    next rest hdrop =>
      obtain ⟨number, hnumber, rfl⟩ := Option.map_eq_some_iff.mp h
      refine ⟨text.takeWhile Char.isDigit, rest, ?_, word32?_eq_some_iff.mp hnumber⟩
      rw [← hdrop, List.takeWhile_append_dropWhile]
    next => cases h
  · rintro ⟨digits, rest, rfl, hdigits⟩
    have hdrop : (digits ++ ':' :: rest).dropWhile Char.isDigit = ':' :: rest :=
      List.dropWhile_append_of_pos hdigits.isDigit
    have htake : (digits ++ ':' :: rest).takeWhile Char.isDigit = digits := by
      rw [List.takeWhile_append_of_pos hdigits.isDigit]
      exact List.append_nil digits
    rw [headerId?, hdrop, htake, word32?_eq_some_iff.mpr hdigits]
    rfl

theorem headerIdAt?_eq (text : Text) : headerIdAt? text = some (headerId? text) := by
  rw [headerIdAt?, headerId?]
  by_cases hnone : digitsEnd text = 0
  · -- Without a digit there is no numeral, whether a colon follows or not.
    have htake : text.takeWhile Char.isDigit = [] := by
      rwa [digitsEnd_eq, byteSize_eq_zero_iff] at hnone
    have hword : word32? [] = none := rfl
    rw [if_pos hnone, htake, hword]
    split <;> rfl
  · rw [if_neg hnone, cutAt?_digitsEnd, Option.map_some]
    cases text.dropWhile Char.isDigit with
    | nil => rfl
    | cons c rest =>
        by_cases hc : c = ':'
        · rw [hc]
          rfl
        · simp [hc]

/-! ## Kinds -/

theorem LineKind.of_of_isUnmarked {line : Text} (hline : IsUnmarked (trim line)) :
    LineKind.of line =
      match behind? headerWord.toList (trim line) with
      | none => .other
      | some rest => .ofHeaderId (headerId? rest) := by
  obtain ⟨hne, hopening, hclosing, hword⟩ := hline
  rw [← contains_iff] at hopening hclosing
  rw [LineKind.of, ofTrimmed, if_neg hopening, if_neg hclosing, if_neg hne,
    if_neg (mt List.isPrefixOf_iff_prefix.mp hword)]
  rfl

/-- All cuts exist, and the kind is that of the line. -/
theorem headerKindAt?_trim {line : Text} (hline : IsUnmarked (trim line)) :
    headerKindAt? (trim line) = some (LineKind.of line) := by
  rw [LineKind.of_of_isUnmarked hline, headerKindAt?]
  by_cases hoccurs : headerWord.toList <:+: trim line
  · obtain ⟨front, rest, h⟩ := exists_isLeftmost hoccurs
    simp only [h.placeOf?_eq, h.behind?_eq, h.cutAt?_eq, Option.bind_some, headerIdAt?_eq,
      Option.map_some]
  · rw [placeOf?_eq_none hoccurs, behind?_eq_none hoccurs]

section Header

variable {line : Text} (hline : IsUnmarked (trim line))

include hline

theorem LineKind.of_of_isLeftmost {front rest : Text}
    (h : IsLeftmost headerWord.toList (trim line) front rest) :
    LineKind.of line = .ofHeaderId (headerId? rest) := by
  rw [of_of_isUnmarked hline, h.behind?_eq]

theorem LineKind.of_of_not_infix (hoccurs : ¬headerWord.toList <:+: trim line) :
    LineKind.of line = .other := by
  rw [of_of_isUnmarked hline, behind?_eq_none hoccurs]

end Header

theorem LineKind.ofHeaderId_eq_header_iff {id : CacheId} {found : Option CacheId} :
    ofHeaderId found = .header id ↔ found = some id := by
  cases found with
  | none => exact iff_of_false nofun nofun
  | some other => rw [ofHeaderId, LineKind.header.injEq, Option.some.injEq]

theorem LineKind.ofHeaderId_eq_malformedHeader_iff {found : Option CacheId} :
    ofHeaderId found = .malformedHeader ↔ ∀ id, found ≠ some id := by
  cases found with
  | none => exact iff_of_true rfl nofun
  | some other => exact iff_of_false nofun fun h => h other rfl

/-- A header has the identifier that is read behind its leftmost header word. -/
theorem isHeaderOf_iff {line front rest : Text} (h : IsLeftmost headerWord.toList line front rest)
    {number : Nat} :
    IsHeaderOf number line ↔ ∃ id, headerId? rest = some id ∧ id.number.toNat = number := by
  constructor
  · rintro ⟨front', digits, behind, hleftmost, hdigits, hlt⟩
    have hrest : rest = digits ++ ':' :: behind :=
      Option.some.inj (h.behind?_eq.symm.trans hleftmost.behind?_eq)
    have hnumber : (UInt32.ofNat number).toNat = number := UInt32.toNat_ofNat_of_lt' hlt
    refine ⟨⟨UInt32.ofNat number⟩, headerId?_eq_some_iff.mpr ⟨digits, behind, hrest, ?_⟩, hnumber⟩
    rwa [hnumber]
  · rintro ⟨id, hid, rfl⟩
    obtain ⟨digits, behind, rfl, hdigits⟩ := headerId?_eq_some_iff.mp hid
    exact ⟨front, digits, behind, h, hdigits, id.number.toNat_lt⟩

theorem IsHeaderOf.isInfix {number : Nat} {line : Text} (h : IsHeaderOf number line) :
    headerWord.toList <:+: line := by
  obtain ⟨front, digits, rest, ⟨htext, -⟩, -⟩ := h
  exact ⟨front, digits ++ ':' :: rest, by rw [htext, List.append_assoc]⟩

/-- An unmarked line is a header exactly when a numeral of thirty-two bits and a colon follow
its leftmost header word, and then it has that identifier; it is a header that is not well
formed when something else follows the word, and of no kind at all without the word.  Finding
the word by its place in bytes leads to the same kind, through cuts that all exist. -/
theorem LineKind.of_tells_header {line : Text} (hline : IsUnmarked (trim line)) :
    (∀ id, LineKind.of line = .header id ↔ IsHeaderOf id.number.toNat (trim line)) ∧
    (LineKind.of line = .malformedHeader ↔
      headerWord.toList <:+: trim line ∧ ∀ number, ¬IsHeaderOf number (trim line)) ∧
    (LineKind.of line = .other ↔ ¬headerWord.toList <:+: trim line) ∧
    headerKindAt? (trim line) = some (LineKind.of line) := by
  by_cases hoccurs : headerWord.toList <:+: trim line
  · obtain ⟨front, rest, h⟩ := exists_isLeftmost hoccurs
    have hkind : LineKind.of line = .ofHeaderId (headerId? rest) := of_of_isLeftmost hline h
    refine ⟨fun id => ?_, ?_, ?_, headerKindAt?_trim hline⟩
    · rw [hkind, ofHeaderId_eq_header_iff, isHeaderOf_iff h]
      constructor
      · intro hid
        exact ⟨id, hid, rfl⟩
      · rintro ⟨other, hother, hnumber⟩
        rwa [← CacheId.eq_of_toNat_eq hnumber]
    · rw [hkind, ofHeaderId_eq_malformedHeader_iff, and_iff_right hoccurs]
      constructor
      · intro hnone number hheader
        obtain ⟨id, hid, -⟩ := (isHeaderOf_iff h).mp hheader
        exact hnone id hid
      · intro hnone id hid
        exact hnone id.number.toNat ((isHeaderOf_iff h).mpr ⟨id, hid, rfl⟩)
    · rw [hkind]
      refine iff_of_false ?_ (not_not.mpr hoccurs)
      cases headerId? rest <;> exact nofun
  · have hkind : LineKind.of line = .other := of_of_not_infix hline hoccurs
    refine ⟨fun id => ?_, ?_, iff_of_true hkind hoccurs, headerKindAt?_trim hline⟩
    · rw [hkind]
      exact iff_of_false nofun fun hheader => hoccurs hheader.isInfix
    · rw [hkind]
      exact iff_of_false nofun fun hheader => hoccurs hheader.1

/-- Leading zeros, a second header word, and characters of several bytes around them. -/
theorem LineKind.of_tells_header_between_wide :
    let line := "\té Cache 0012:\u2003Cache ٣: ".toList
    IsUnmarked (trim line) ∧ LineKind.of line = .header ⟨12⟩ ∧ IsHeaderOf 12 (trim line) ∧
      headerKindAt? (trim line) = some (LineKind.of line) := by
  intro line
  have hmarkers : ¬contains (trim line) sectionOpening.toList = true ∧
      ¬contains (trim line) sectionClosing.toList = true ∧
      ¬recordWord.toList.isPrefixOf (trim line) = true := by
    decide +kernel
  have hline : IsUnmarked (trim line) :=
    ⟨by decide +kernel, mt contains_iff.mpr hmarkers.1, mt contains_iff.mpr hmarkers.2.1,
      mt List.isPrefixOf_iff_prefix.mpr hmarkers.2.2⟩
  have hkind : LineKind.of line = .header ⟨12⟩ := by decide +kernel
  obtain ⟨hheader, -, -, hplaces⟩ := LineKind.of_tells_header hline
  exact ⟨hline, hkind, (hheader ⟨12⟩).mp hkind, hplaces⟩

end CacheCoherence.Dump
