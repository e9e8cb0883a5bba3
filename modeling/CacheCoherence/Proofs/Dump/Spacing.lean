import CacheCoherence.Proofs.Dump.Beginning
import CacheCoherence.Proofs.Text.Padding

/-!
# White space in a dump

A line is read without the white space at its ends, and a line of white space does nothing
wherever it stands.  So white space can be added to the lines of a dump, and further lines of
white space between them: the reader goes through the same states, and when it stops it stops
at the same line for the same cause.

The white space that is added is given line by line, which also tells what number each line
has in the longer dump.
-/

namespace CacheCoherence.Dump

open Text

/-! ## Added white space -/

/-- A line with the white space that is added to it: further lines above it, and what is put
in front of it and behind it. -/
structure SpacedLine where
  above : List Text
  front : Text
  line : Text
  back : Text
  isSpace_above : ∀ space ∈ above, IsSpace space
  isSpace_front : IsSpace front
  isSpace_back : IsSpace back

namespace SpacedLine

/-- The line with white space at its ends. -/
def text (spaced : SpacedLine) : Text :=
  spaced.front ++ spaced.line ++ spaced.back

/-- The line with all white space that is added to it. -/
def written (spaced : SpacedLine) : List Text :=
  spaced.above ++ [spaced.text]

theorem isPadded_text (spaced : SpacedLine) : IsPadded spaced.line spaced.text :=
  ⟨spaced.front, spaced.back, spaced.isSpace_front, spaced.isSpace_back, rfl⟩

end SpacedLine

/-- The lines of a dump with the white space that is added to them, and with further lines of
white space at the end. -/
structure SpacedLines where
  lines : List SpacedLine
  below : List Text
  isSpace_below : ∀ space ∈ below, IsSpace space

namespace SpacedLines

/-- The lines without what is added. -/
def plain (spacing : SpacedLines) : List Text :=
  spacing.lines.map SpacedLine.line

/-- The lines with what is added. -/
def written (spacing : SpacedLines) : List Text :=
  spacing.lines.flatMap SpacedLine.written ++ spacing.below

/-- The number that a line has with what is added, for the number that it has without. -/
def number (spacing : SpacedLines) (plain : Nat) : Nat :=
  ((spacing.lines.take plain).flatMap SpacedLine.written).length

end SpacedLines

/-! ## The reader on white space -/

theorem LineKind.of_text (spaced : SpacedLine) :
    LineKind.of spaced.text = LineKind.of spaced.line := by
  rw [of, spaced.isPadded_text.trim_eq, of]

theorem LineKind.of_isSpace {line : Text} (hline : IsSpace line) : LineKind.of line = .blank := by
  have hpadded : IsPadded [] line := ⟨line, [], hline, isSpace_nil, by simp⟩
  rw [of, hpadded.trim_eq]
  rfl

namespace State

theorem step_blank (state : State) : state.step .blank = .ok state := by
  rw [step]
  split
  · rfl
  · rfl

theorem run_of_isSpace
    (state : State) {spaces : List Text} (hspaces : ∀ space ∈ spaces, IsSpace space)
    (first : Nat) : state.run first spaces = .ok state := by
  refine run_of_forall_step (fun space hspace => ?_) first
  rw [LineKind.of_isSpace (hspaces space hspace), step_blank]

theorem run_written
    {state next : State} {spaced : SpacedLine}
    (hstep : state.step (LineKind.of spaced.line) = .ok next) (first : Nat) :
    state.run first spaced.written = .ok next := by
  rw [SpacedLine.written, run_append_of_ok (state.run_of_isSpace spaced.isSpace_above first), run,
    LineKind.of_text, hstep]
  rfl

/-- Lines that are read without an error are read in the same way with white space added. -/
theorem run_flatMap_written
    {state final : State} {first : Nat} {lines : List SpacedLine}
    (hrun : state.run first (lines.map SpacedLine.line) = .ok final) (number : Nat) :
    state.run number (lines.flatMap SpacedLine.written) = .ok final := by
  induction lines generalizing state first number with
  | nil => exact hrun
  | cons spaced rest ih =>
      rw [List.map_cons, run] at hrun
      cases hstep : state.step (LineKind.of spaced.line) with
      | error cause =>
          rw [hstep] at hrun
          cases hrun
      | ok next =>
          rw [hstep] at hrun
          rw [List.flatMap_cons, run_append_of_ok (run_written hstep number)]
          exact ih hrun _

end State

/-! ## What is read -/

theorem readLines_written_of_ok
    {spacing : SpacedLines} {snapshot : Snapshot}
    (hread : readLines spacing.plain = .ok snapshot) :
    readLines spacing.written = .ok snapshot := by
  obtain ⟨final, hrun, rfl⟩ := exists_run_of_readLines hread
  apply readLines_of_run
  rw [SpacedLines.written, State.run_append_of_ok (State.run_flatMap_written hrun 1)]
  exact final.run_of_isSpace spacing.isSpace_below _

theorem readLines_written_of_error
    {spacing : SpacedLines} {error : ReadError}
    (hread : readLines spacing.plain = .error error) :
    ∃ spaced, spacing.lines[error.line - 1]? = some spaced ∧
      spacing.written[spacing.number error.line - 1]? = some spaced.text ∧
      readLines spacing.written =
        .error (ReadError.at (spacing.number error.line) spaced.text error.cause) := by
  obtain ⟨front, line, back, next, cause, hplain, hfront, hstep, rfl⟩ :=
    State.run_eq_error_iff.mp (readLines_eq_error_iff.mp hread)
  obtain ⟨lines, below, hbelow⟩ := spacing
  obtain ⟨above, rest, rfl, rfl, hrest⟩ := List.map_eq_append_iff.mp hplain
  obtain ⟨spaced, behind, rfl, rfl, -⟩ := List.map_eq_cons_iff.mp hrest
  -- What is written in front of the line that does not fit, and behind it.
  let before := above.flatMap SpacedLine.written ++ spaced.above
  let after := behind.flatMap SpacedLine.written ++ below
  let spacing : SpacedLines := ⟨above ++ spaced :: behind, below, hbelow⟩
  have hline : (ReadError.at (1 + (above.map SpacedLine.line).length) spaced.line cause).line =
      above.length + 1 := by
    rw [List.length_map, Nat.add_comm]
    rfl
  have hnumber : spacing.number (above.length + 1) = 1 + before.length := by
    have htake : spacing.lines.take (above.length + 1) = above ++ [spaced] := by
      change (above ++ spaced :: behind).take (above.length + 1) = above ++ [spaced]
      rw [List.append_cons, List.take_left' (by simp)]
    rw [SpacedLines.number, htake]
    simp only [before, List.flatMap_append, List.flatMap_singleton, SpacedLine.written,
      List.length_append, List.length_singleton]
    omega
  have hwritten : spacing.written = before ++ spaced.text :: after := by
    simp [spacing, SpacedLines.written, SpacedLine.written, before, after]
  have hbefore : State.initial.run 1 before = .ok next := by
    rw [State.run_append_of_ok (State.run_flatMap_written hfront 1)]
    exact next.run_of_isSpace spaced.isSpace_above _
  rw [hline, hnumber, hwritten, Nat.add_sub_cancel, Nat.add_sub_cancel_left]
  refine ⟨spaced, by simp, by simp, ?_⟩
  apply readLines_eq_error_iff.mpr
  apply State.run_eq_error_iff.mpr
  exact ⟨before, spaced.text, after, next, cause, rfl, hbefore, by rwa [LineKind.of_text], rfl⟩

/-- White space at the ends of lines, and further lines of white space, do not matter to what is
read: a dump with them gives the same snapshot, or it is refused for the same cause at the same
one of its lines. -/
theorem readLines_of_spaced (spacing : SpacedLines) :
    (∀ snapshot, readLines spacing.plain = .ok snapshot →
      readLines spacing.written = .ok snapshot) ∧
    ∀ error, readLines spacing.plain = .error error →
      ∃ spaced, spacing.lines[error.line - 1]? = some spaced ∧
        spacing.written[spacing.number error.line - 1]? = some spaced.text ∧
        readLines spacing.written =
          .error (ReadError.at (spacing.number error.line) spaced.text error.cause) :=
  ⟨fun _ => readLines_written_of_ok, fun _ => readLines_written_of_error⟩

/-- The blank of the header word is white space itself, at the end of a line. -/
example :
    let spacing : SpacedLines :=
      ⟨[⟨[['\t']], ['\u3000'], "CACHE CONTENT".toList, [], by decide, by decide, by decide⟩,
        ⟨[[], [' ']], [], "Cache ".toList, ['\u00a0'], by decide, by decide, by decide⟩],
        [], by decide⟩
    readLines spacing.plain = .error ⟨2, "Cache ", .unexpectedLine⟩ ∧ spacing.number 2 = 5 ∧
      readLines spacing.written = .error ⟨5, "Cache \u00a0", .unexpectedLine⟩ :=
  ⟨rfl, rfl, rfl⟩

end CacheCoherence.Dump
