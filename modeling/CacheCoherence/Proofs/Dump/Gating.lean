import CacheCoherence.Proofs.Dump.Beginning
import CacheCoherence.Proofs.Text.Trim

/-!
# Lines outside sections

Outside sections the reader waits for an opening marker and does nothing about any other
line.  Lines without the marker can therefore be put in between two sections, whatever
they hold: all that they change is the numbers of the lines below.

That no section is open behind some lines is said of the state of the reader, and is the
same as reading them without the warning about an open section.
-/

namespace CacheCoherence.Dump

open Text

/-! ## Line numbers -/

/-- The same error in a dump with this number of further lines above. -/
def ReadError.below (error : ReadError) (count : Nat) : ReadError :=
  { error with line := error.line + count }

/-- What is read does not depend on where the lines stand, errors apart. -/
theorem State.run_add (state : State) (first count : Nat) (lines : List Text) :
    state.run (first + count) lines =
      (state.run first lines).mapError fun error => error.below count := by
  induction lines generalizing state first with
  | nil => rfl
  | cons line rest ih =>
      rw [run, run]
      cases state.step (LineKind.of line) with
      | error cause => rfl
      | ok next =>
          have hnumber : first + count + 1 = first + 1 + count := Nat.add_right_comm first count 1
          rw [hnumber]
          exact ih next (first + 1)

/-! ## Closed sections -/

/-- These lines are accepted, and no section is open behind them. -/
def EndsOutside (lines : List Text) : Prop :=
  ∃ final, State.initial.run 1 lines = .ok final ∧ final.place = .outside

theorem State.notice?_ne_unclosed (state : State) (number : Nat) (kind : LineKind) :
    state.notice? number kind ≠ some .unclosed := by
  unfold notice?
  repeat' split
  all_goals exact nofun

theorem State.unclosed_mem_notices_iff
    {state final : State} {first : Nat} {lines : List Text}
    (hrun : state.run first lines = .ok final) :
    .unclosed ∈ state.notices first lines ↔ final.place ≠ .outside := by
  induction lines generalizing state first with
  | nil =>
      cases hrun
      rw [notices, finalNotices]
      by_cases hplace : final.place = .outside
      · simp [hplace]
      · simp [hplace]
  | cons line rest ih =>
      rw [run] at hrun
      cases hstep : state.step (LineKind.of line) with
      | error cause =>
          rw [hstep] at hrun
          cases hrun
      | ok next =>
          rw [hstep] at hrun
          have hline : .unclosed ∉ (state.notice? first (LineKind.of line)).toList := by
            rw [Option.mem_toList]
            exact state.notice?_ne_unclosed first (LineKind.of line)
          rw [notices, hstep, List.mem_append, or_iff_right hline]
          exact ih hrun

/-! ## Noise -/

theorem LineKind.of_eq_sectionOpen_iff {line : Text} :
    LineKind.of line = .sectionOpen ↔ contains (trim line) sectionOpening.toList = true := by
  rw [of, ofTrimmed]
  split
  next hopening => exact iff_of_true rfl hopening
  next hopening =>
    refine iff_of_false ?_ hopening
    repeat' split
    all_goals exact nofun

/-- A line opens a section only when the marker stands somewhere in it. -/
theorem LineKind.of_ne_sectionOpen
    {line : Text} (hline : ¬sectionOpening.toList <:+: line) :
    LineKind.of line ≠ .sectionOpen := by
  rw [Ne, of_eq_sectionOpen_iff, contains_iff]
  exact fun hmarker => hline (hmarker.trans (trim_isInfix line))

/-- Outside sections, lines that open none leave the reader as it is. -/
theorem State.run_of_outside
    {state : State} (houtside : state.place = .outside) {noise : List Text}
    (hnoise : ∀ line ∈ noise, LineKind.of line ≠ .sectionOpen) (first : Nat) :
    state.run first noise = .ok state := by
  refine run_of_forall_step (fun line hline => ?_) first
  rw [step, if_pos houtside, if_neg (hnoise line hline)]

/-- Lines without an opening marker do not matter where no section is open: what stands
below them is read as if they were not there, and errors are found so many lines later. -/
theorem readLines_append_noise
    {front noise : List Text} (hfront : EndsOutside front)
    (hnoise : ∀ line ∈ noise, ¬sectionOpening.toList <:+: line) (back : List Text) :
    readLines (front ++ noise ++ back) =
      (readLines (front ++ back)).mapError fun error => error.below noise.length := by
  obtain ⟨final, hrun, houtside⟩ := hfront
  have hpass : final.run (1 + front.length) noise = .ok final :=
    State.run_of_outside houtside
      (fun line hline => LineKind.of_ne_sectionOpen (hnoise line hline)) _
  have hruns : State.initial.run 1 (front ++ noise ++ back) =
      (State.initial.run 1 (front ++ back)).mapError fun error => error.below noise.length := by
    rw [List.append_assoc, State.run_append_of_ok hrun, State.run_append_of_ok hpass,
      State.run_append_of_ok hrun, State.run_add]
  rw [readLines, readLines, hruns]
  cases State.initial.run 1 (front ++ back) with
  | error error => rfl
  | ok state => rfl

/-- A header, a broken record and a closing marker between two sections, of which the
second one has an error. -/
theorem readLines_append_noise_refused :
    readLines (["CACHE CONTENT", "Cache 1:", "CACHE END"].map String.toList ++
        ["Cache 9:", "CacheLine\x7bset_index", "CACHE END"].map String.toList ++
        ["CACHE CONTENT", "Cache 9 is busy"].map String.toList) =
      .error ⟨8, "Cache 9 is busy", .malformedHeader⟩ := by
  have hfront : EndsOutside (["CACHE CONTENT", "Cache 1:", "CACHE END"].map String.toList) :=
    ⟨⟨#[⟨⟨1⟩, []⟩], .outside⟩, rfl, rfl⟩
  have hmarker : ∀ line ∈ ["Cache 9:", "CacheLine\x7bset_index", "CACHE END"].map String.toList,
      ¬contains line sectionOpening.toList = true := by
    decide
  rw [readLines_append_noise hfront fun line hline =>
    contains_iff.not.mp (hmarker line hline)]
  rfl

end CacheCoherence.Dump
