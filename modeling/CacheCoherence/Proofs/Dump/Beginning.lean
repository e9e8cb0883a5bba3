import CacheCoherence.Proofs.Dump.Moves
import CacheCoherence.Proofs.Snapshot.Relisting
import CacheCoherence.Proofs.Text.Lines

/-!
# Beginnings of a dump

Lines are read one after the other, so that a dump is refused because of one line, for
which only the lines above matter: the beginning above this line is accepted, and no
continuation below it is.

No move of the reader takes back a listing, and the snapshot of a beginning has the first
caches of the whole dump.
-/

namespace CacheCoherence.Dump

namespace State

/-! ## Two parts of a dump -/

theorem run_append (state : State) (first : Nat) (front back : List Text) :
    state.run first (front ++ back) =
      (state.run first front).bind fun next => next.run (first + front.length) back := by
  induction front generalizing state first with
  | nil => rfl
  | cons line rest ih =>
      rw [List.cons_append, run, run]
      cases state.step (LineKind.of line) with
      | error cause => rfl
      | ok next =>
          have hnumber : first + (line :: rest).length = first + 1 + rest.length := by
            rw [List.length_cons]
            omega
          rw [hnumber]
          exact ih next (first + 1)

theorem run_append_of_ok
    {state next : State} {first : Nat} {front : List Text}
    (hfront : state.run first front = .ok next) (back : List Text) :
    state.run first (front ++ back) = next.run (first + front.length) back := by
  rw [run_append, hfront]
  rfl

/-- Lines that leave the reader as it is are passed over. -/
theorem run_of_forall_step
    {state : State} {lines : List Text}
    (hlines : ∀ line ∈ lines, state.step (LineKind.of line) = .ok state) (first : Nat) :
    state.run first lines = .ok state := by
  induction lines generalizing first with
  | nil => rfl
  | cons line rest ih =>
      rw [List.forall_mem_cons] at hlines
      rw [run, hlines.1]
      exact ih hlines.2 (first + 1)

/-- A run ends with an error at the one line that does not fit behind the lines in front
of it. -/
theorem run_eq_error_iff {state : State} {first : Nat} {lines : List Text} {error : ReadError} :
    state.run first lines = .error error ↔
      ∃ front line back next cause, lines = front ++ line :: back ∧
        state.run first front = .ok next ∧ next.step (LineKind.of line) = .error cause ∧
        error = ReadError.at (first + front.length) line cause := by
  constructor
  · intro hrun
    induction lines generalizing state first with
    | nil => cases hrun
    | cons line rest ih =>
        rw [run] at hrun
        cases hstep : state.step (LineKind.of line) with
        | error cause =>
            rw [hstep] at hrun
            cases hrun
            exact ⟨[], line, rest, state, cause, rfl, rfl, hstep, rfl⟩
        | ok next =>
            rw [hstep] at hrun
            obtain ⟨front, bad, back, last, cause, rfl, hfront, hbad, rfl⟩ := ih hrun
            refine ⟨line :: front, bad, back, last, cause, rfl, ?_, hbad, ?_⟩
            · rw [run, hstep]
              exact hfront
            · rw [List.length_cons, Nat.add_comm front.length 1, ← Nat.add_assoc]
  · rintro ⟨front, line, back, next, cause, rfl, hfront, hstep, rfl⟩
    rw [run_append_of_ok hfront, run, hstep]

/-! ## The caches listed so far -/

theorem listings_goTo (state : State) (place : Place) :
    (state.goTo place).listings = state.listings ++ (openListing? ⟨#[], place⟩).toList := by
  rw [listings, complete_goTo, openListing?, place_goTo, openListing?]

/-- A move adds the header that it lists to the headers read so far, if it lists any. -/
theorem Moves.ids_prefix
    {state next : State} {kind : LineKind} (hmoves : state.Moves kind next) :
    state.listings.map Cache.id <+: next.listings.map Cache.id := by
  cases hmoves with
  | pass => exact List.prefix_refl _
  | enter =>
      rw [listings_goTo, List.map_append]
      exact List.prefix_append _ _
  | stay => exact List.prefix_refl _
  | leave =>
      rw [listings_goTo, List.map_append]
      exact List.prefix_append _ _
  | list hinside id =>
      rw [listings_goTo, List.map_append]
      exact List.prefix_append _ _
  | add complete id records =>
      -- The record goes to the cache that is listed last, which keeps its header.
      simp only [listings, openListing?, Option.toList_some, List.map_append,
        List.map_singleton]
      exact List.prefix_refl _

theorem Reads.ids_prefix
    {state final : State} {kinds : List LineKind} (h : state.Reads kinds final) :
    state.listings.map Cache.id <+: final.listings.map Cache.id := by
  induction h with
  | nil state => exact List.prefix_refl _
  | cons hmoves _ ih => exact hmoves.ids_prefix.trans ih

theorem Reads.ids_snapshot_prefix
    {state final : State} {kinds : List LineKind} (h : state.Reads kinds final) :
    state.snapshot.ids <+: final.snapshot.ids := by
  obtain ⟨added, hadded⟩ := h.ids_prefix
  rw [snapshot, snapshot, Snapshot.ids_ofCaches, Snapshot.ids_ofCaches, ← hadded,
    List.eraseDups_append]
  exact List.prefix_append _ _

end State

/-! ## Refused and accepted dumps -/

theorem ReadError.toList_text_at (number : Nat) (line : Text) (cause : LineError) :
    (ReadError.at number line cause).text.toList = Text.dropLineEnd line :=
  String.toList_ofList

theorem readLines_of_run
    {lines : List Text} {final : State} (hrun : State.initial.run 1 lines = .ok final) :
    readLines lines = .ok final.snapshot := by
  rw [readLines, hrun]
  rfl

theorem readLines_eq_error_iff {lines : List Text} {error : ReadError} :
    readLines lines = .error error ↔ State.initial.run 1 lines = .error error := by
  rw [readLines]
  cases State.initial.run 1 lines with
  | error other =>
      constructor
      · rintro ⟨⟩
        rfl
      · rintro ⟨⟩
        rfl
  | ok final =>
      constructor
      · intro h
        cases h
      · intro h
        cases h

theorem exists_run_of_readLines
    {lines : List Text} {snapshot : Snapshot} (h : readLines lines = .ok snapshot) :
    ∃ final, State.initial.run 1 lines = .ok final ∧ final.snapshot = snapshot := by
  obtain ⟨final, hreads, hsnapshot⟩ := readLines_eq_ok_iff.mp h
  exact ⟨final, State.run_eq_ok_iff.mpr hreads, hsnapshot⟩

/-- A beginning of an accepted dump is accepted, with the first of its caches. -/
theorem exists_readLines_of_prefix
    {lines front : List Text} {snapshot : Snapshot} (h : readLines lines = .ok snapshot)
    (hfront : front <+: lines) :
    ∃ before, readLines front = .ok before ∧ before.ids <+: snapshot.ids := by
  obtain ⟨back, rfl⟩ := hfront
  obtain ⟨final, hrun, rfl⟩ := exists_run_of_readLines h
  rw [State.run_append] at hrun
  cases hnext : State.initial.run 1 front with
  | error error =>
      rw [hnext] at hrun
      cases hrun
  | ok next =>
      rw [hnext] at hrun
      have hreads : next.Reads (back.map LineKind.of) final := State.run_eq_ok_iff.mp hrun
      exact ⟨next.snapshot, readLines_of_run hnext, hreads.ids_snapshot_prefix⟩

/-- A dump is refused because of one of its lines: the lines above are accepted, the error
names the line, and every dump that begins with the same lines is refused alike.  Of an
accepted dump every beginning is accepted, and has the first of its caches. -/
theorem readLines_by_beginnings (lines : List Text) :
    (∀ error, readLines lines = .error error →
      1 ≤ error.line ∧ error.line ≤ lines.length ∧
      (∃ before, readLines (lines.take (error.line - 1)) = .ok before) ∧
      (∃ line, lines[error.line - 1]? = some line ∧
        Text.IsWithoutEnd line error.text.toList) ∧
      ∀ other : List Text, other.take error.line = lines.take error.line →
        readLines other = .error error) ∧
    ∀ snapshot, readLines lines = .ok snapshot → ∀ front, front <+: lines →
      ∃ before, readLines front = .ok before ∧ before.ids <+: snapshot.ids := by
  constructor
  · intro error herror
    obtain ⟨front, line, back, next, cause, rfl, hfront, hstep, rfl⟩ :=
      State.run_eq_error_iff.mp (readLines_eq_error_iff.mp herror)
    have hnumber : (ReadError.at (1 + front.length) line cause).line = front.length + 1 :=
      Nat.add_comm 1 front.length
    rw [hnumber, Nat.add_sub_cancel]
    have htake : (front ++ line :: back).take (front.length + 1) = front ++ [line] := by
      rw [List.append_cons, List.take_left' (by simp)]
    refine ⟨Nat.le_add_left 1 _, by simp, ?_, ?_, ?_⟩
    · rw [List.take_left]
      exact ⟨next.snapshot, readLines_of_run hfront⟩
    · refine ⟨line, by simp, ?_⟩
      rw [ReadError.toList_text_at]
      exact Text.isWithoutEnd_dropLineEnd line
    · intro other hother
      have hsplit : other = front ++ line :: other.drop (front.length + 1) := by
        conv_lhs => rw [← List.take_append_drop (front.length + 1) other, hother, htake]
        rw [List.append_assoc, List.singleton_append]
      exact readLines_eq_error_iff.mpr
        (State.run_eq_error_iff.mpr
          ⟨front, line, _, next, cause, hsplit, hfront, hstep, rfl⟩)
  · intro snapshot hread front hfront
    exact exists_readLines_of_prefix hread hfront

end CacheCoherence.Dump
