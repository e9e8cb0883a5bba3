import CacheCoherence.Proofs.Dump.Headers
import CacheCoherence.Proofs.Dump.Literal
import CacheCoherence.Proofs.Dump.RecordLines
import CacheCoherence.Proofs.Text.Lines

/-!
# The lines of a written dump

The lines of a cache consist of digits and of the few characters that headers and
literals are made of.  None of these is part of both markers or ends a line, so
the lines of a dump are found again in its text, and each has the kind that it
was written for.
-/

namespace CacheCoherence.Dump

open Text

/-! ## The characters of a line -/

theorem not_mem_of_all_isWritten
    {text : Text} (htext : text.all isWritten = true) {c : Char}
    (hc : isWritten c = false) : c ∉ text := by
  intro hmem
  rw [List.all_eq_true.mp htext c hmem] at hc
  cases hc

theorem all_isWritten_toDigits (n : Nat) : (Nat.toDigits 10 n).all isWritten = true := by
  rw [List.all_eq_true]
  intro c hc
  rw [isWritten, isDigit_of_mem_toDigits hc, Bool.true_or]

theorem all_isWritten_literal (record : Record) :
    record.literal.toList.all isWritten = true := by
  have hletter : isWritten record.state.letter = true := by
    cases record.state <;> decide
  simp only [Record.literal, String.toList_append, Nat.toList_repr, Char.toString_eq_singleton,
    String.toList_singleton, List.all_append, List.all_cons, List.all_nil,
    all_isWritten_toDigits, hletter]
  decide

theorem toList_header (id : CacheId) :
    (headerWord ++ id.text ++ ": ").toList =
      headerWord.toList ++ (Nat.toDigits 10 id.number.toNat ++ [':', ' ']) := by
  simp [CacheId.text]

theorem all_isWritten_header (id : CacheId) :
    (headerWord ++ id.text ++ ": ").toList.all isWritten = true := by
  rw [toList_header]
  simp only [List.all_append, all_isWritten_toDigits]
  decide

/-! ## The kinds of lines -/

theorem LineKind.of_record (record : Record) :
    LineKind.of ("\t" ++ record.literal).toList = .record record.literal.toList := by
  have hline : IsPadded record.literal.toList ("\t" ++ record.literal).toList := by
    rw [String.toList_append]
    exact ⟨"\t".toList, [], by decide, isSpace_nil, (List.append_nil _).symm⟩
  rw [of_isPadded (isLiteralOf_literal record) hline, trim_literal]

theorem trim_header (id : CacheId) :
    trim (headerWord ++ id.text ++ ": ").toList =
      headerWord.toList ++ (Nat.toDigits 10 id.number.toNat ++ [':']) := by
  apply trim_of_isPadded
  · rw [← List.append_assoc]
    exact isTrimmed_of_ends 'C' (headerWord.toList.tail ++ Nat.toDigits 10 id.number.toNat) ':'
      (by decide) (by decide)
  · rw [toList_header]
    exact ⟨[], [' '], isSpace_nil, by decide, by simp⟩

theorem isUnmarked_header (id : CacheId) :
    IsUnmarked (trim (headerWord ++ id.text ++ ": ").toList) := by
  have hmarker : 'H' ∉ trim (headerWord ++ id.text ++ ": ").toList := by
    intro hmem
    exact not_mem_of_all_isWritten (all_isWritten_header id) (by decide)
      ((trim_isInfix _).subset hmem)
  obtain ⟨hopening, hclosing⟩ := not_marker_isInfix hmarker
  refine ⟨?_, hopening, hclosing, ?_⟩
  · rw [trim_header]
    exact List.cons_ne_nil _ _
  · rw [trim_header, ← List.isPrefixOf_iff_prefix]
    exact Bool.false_ne_true

theorem LineKind.of_header (id : CacheId) :
    LineKind.of (headerWord ++ id.text ++ ": ").toList = .header id := by
  let rest := Nat.toDigits 10 id.number.toNat ++ [':']
  have hleftmost :
      IsLeftmost headerWord.toList (trim (headerWord ++ id.text ++ ": ").toList) [] rest :=
    (isLeftmost_prefix_iff ⟨rest, (trim_header id).symm⟩).mpr ⟨rfl, trim_header id⟩
  have hid : headerId? rest = some id :=
    headerId?_eq_some_iff.mpr ⟨_, [], rfl, isNumeral_toDigits id.number.toNat⟩
  rw [of_of_isLeftmost (isUnmarked_header id) hleftmost, hid, ofHeaderId]

/-! ## The lines of a dump -/

theorem isLine_of_all_isWritten {line : Text} (hline : line.all isWritten = true) :
    IsLine line := by
  constructor
  · exact not_mem_of_all_isWritten hline (by decide)
  · intro hlast
    exact not_mem_of_all_isWritten hline (by decide) (List.mem_of_getLast? hlast)

theorem all_isWritten_of_mem_dumpLines
    {cache : Cache} {line : String} (hline : line ∈ cache.dumpLines) :
    line.toList.all isWritten = true := by
  rcases List.mem_cons.mp hline with rfl | hrecord
  · exact all_isWritten_header cache.id
  · obtain ⟨record, -, rfl⟩ := List.mem_map.mp hrecord
    rw [String.toList_append, List.all_append, all_isWritten_literal]
    decide

theorem lines_dump (snapshot : Snapshot) :
    lines snapshot.dump.toList = snapshot.dumpLines.map String.toList := by
  refine lines_unlines fun line hline => ?_
  simp only [Snapshot.dumpLines, List.mem_append, List.mem_singleton, List.mem_flatMap] at hline
  rcases hline with (rfl | ⟨cache, -, hcache⟩) | rfl
  · exact ⟨by decide, by decide⟩
  · exact isLine_of_all_isWritten (all_isWritten_of_mem_dumpLines hcache)
  · exact ⟨by decide, by decide⟩

end CacheCoherence.Dump
