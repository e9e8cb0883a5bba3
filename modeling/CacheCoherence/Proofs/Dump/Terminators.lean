import CacheCoherence.Proofs.Text.Terminators
import CacheCoherence.Dump.Reader

/-!
# Terminators of dump lines

The kind of a line does not depend on the carriage returns and line feeds at its end, which
are white space, and an error gives the text of its line without them.  So the reader makes
no difference between lines that are the same up to their ends, and a dump is read alike
from its lines, from its pieces with the terminators left on, and from the text with a
carriage return put in front of every line feed.
-/

namespace CacheCoherence.Dump

open Text

theorem LineKind.of_dropLineEnd (line : Text) :
    LineKind.of (dropLineEnd line) = LineKind.of line := by
  rw [of, of, (isPadded_dropLineEnd line).trim_eq]

theorem ReadError.at_dropLineEnd (number : Nat) (line : Text) (cause : LineError) :
    ReadError.at number (dropLineEnd line) cause = ReadError.at number line cause := by
  rw [ReadError.at, ReadError.at, dropLineEnd_dropLineEnd]

theorem State.run_map_dropLineEnd (state : State) (first : Nat) (lines : List Text) :
    state.run first (lines.map dropLineEnd) = state.run first lines := by
  induction lines generalizing state first with
  | nil => rfl
  | cons line rest ih =>
      rw [List.map_cons, run, run, LineKind.of_dropLineEnd]
      cases state.step (LineKind.of line) with
      | ok next => exact ih next (first + 1)
      | error cause => exact congrArg Except.error (ReadError.at_dropLineEnd first line cause)

/-- Lines that are the same up to their ends are read alike. -/
theorem readLines_eq_of_map_dropLineEnd_eq
    {lines others : List Text} (h : lines.map dropLineEnd = others.map dropLineEnd) :
    readLines lines = readLines others := by
  rw [readLines, readLines, ← State.run_map_dropLineEnd, h, State.run_map_dropLineEnd]

/-- The terminators of its lines do not matter to what is read from a text.  With a carriage
return put in front of every line feed, and from the pieces into which the line feeds cut it
in the one possible way, the same snapshot is read, or the same error is met. -/
theorem read_alike_of_terminators (text : String) :
    read (String.ofList (withReturns text.toList)) = read text ∧
      (∀ cut, IsCut text.toList cut ↔ cut = pieces text.toList) ∧
      readLines (pieces text.toList) = read text := by
  refine ⟨?_, fun cut => isCut_iff, ?_⟩
  · rw [read, read, String.toList_ofList]
    exact readLines_eq_of_map_dropLineEnd_eq (map_dropLineEnd_lines_withReturns text.toList)
  · exact readLines_eq_of_map_dropLineEnd_eq (map_dropLineEnd_lines text.toList).symm

/-- A refused line that ends in carriage returns, at the end of a text without a line feed. -/
example :
    let text := "CACHE CONTENT\r\nCache 0:\r\r\n nothing \r\r"
    let error : ReadError := ⟨3, " nothing ", .unexpectedLine⟩
    read text = .error error ∧ readLines (pieces text.toList) = .error error ∧
      read (String.ofList (withReturns text.toList)) = .error error :=
  ⟨rfl, rfl, rfl⟩

end CacheCoherence.Dump
