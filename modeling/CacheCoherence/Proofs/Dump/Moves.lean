import CacheCoherence.Proofs.Dump.Run

/-!
# Moves of the reader

All that a line can do to the reader, one rule for each way in which a line fits
where it stands.  A run over lines without an error is a sequence of such moves,
and depends on the kinds of the lines only.
-/

namespace CacheCoherence.Dump

namespace State

/-- A line of some kind takes the reader from one state to another. -/
inductive Moves : State → LineKind → State → Prop
  | pass {state : State} {kind : LineKind} (houtside : state.place = .outside)
      (hkind : kind ≠ .sectionOpen) : Moves state kind state
  | enter {state : State} (houtside : state.place = .outside) :
      Moves state .sectionOpen (state.goTo .unlisted)
  | stay {state : State} {kind : LineKind} (hinside : state.place ≠ .outside)
      (hkind : kind = .sectionOpen ∨ kind = .blank) : Moves state kind state
  | leave {state : State} (hinside : state.place ≠ .outside) :
      Moves state .sectionClose (state.goTo .outside)
  | list {state : State} (hinside : state.place ≠ .outside) (id : CacheId) :
      Moves state (.header id) (state.goTo (.listing id #[]))
  | add (complete : Array Cache) (id : CacheId) (records : Array Record) {literal : Text}
      {record : Record} (hread : readRecord literal = .ok record) :
      Moves ⟨complete, .listing id records⟩ (.record literal)
        ⟨complete, .listing id (records.push record)⟩

theorem addRecord_eq_ok_iff {state next : State} {literal : Text} :
    state.addRecord literal = .ok next ↔
      ∃ id records record, state.place = .listing id records ∧
        readRecord literal = .ok record ∧
        next = ⟨state.complete, .listing id (records.push record)⟩ := by
  obtain ⟨complete, place⟩ := state
  cases place with
  | outside => simp [addRecord]
  | unlisted => simp [addRecord]
  | listing id records =>
      rw [addRecord]
      cases readRecord literal with
      | error error => simp
      | ok record =>
          constructor
          · intro h
            cases h
            exact ⟨id, records, record, rfl, rfl, rfl⟩
          · rintro ⟨_, _, _, hplace, hread, rfl⟩
            cases hplace
            cases hread
            rfl

theorem moves_of_stepInside
    {state next : State} {kind : LineKind} (hinside : state.place ≠ .outside)
    (hstep : state.stepInside kind = .ok next) : state.Moves kind next := by
  cases kind with
  | sectionOpen =>
      cases hstep
      exact .stay hinside (Or.inl rfl)
  | sectionClose =>
      cases hstep
      exact .leave hinside
  | header id =>
      cases hstep
      exact .list hinside id
  | malformedHeader => cases hstep
  | record literal =>
      obtain ⟨complete, place⟩ := state
      obtain ⟨id, records, record, hplace, hread, rfl⟩ := addRecord_eq_ok_iff.mp hstep
      cases hplace
      exact .add complete id records hread
  | blank =>
      cases hstep
      exact .stay hinside (Or.inr rfl)
  | other => cases hstep

/-- The moves are the steps without an error. -/
theorem step_eq_ok_iff {state next : State} {kind : LineKind} :
    state.step kind = .ok next ↔ state.Moves kind next := by
  constructor
  · intro hstep
    unfold step at hstep
    split at hstep
    next houtside =>
      split at hstep
      next hkind =>
        cases hstep
        subst hkind
        exact .enter houtside
      next hkind =>
        cases hstep
        exact .pass houtside hkind
    next hinside => exact moves_of_stepInside hinside hstep
  · intro hmoves
    cases hmoves with
    | pass houtside hkind => rw [step, if_pos houtside, if_neg hkind]
    | enter houtside => rw [step, if_pos houtside, if_pos rfl]
    | stay hinside hkind =>
        rw [step, if_neg hinside]
        rcases hkind with rfl | rfl <;> rfl
    | leave hinside => rw [step, if_neg hinside, stepInside]
    | list hinside id => rw [step, if_neg hinside, stepInside]
    | add complete id records hread =>
        rw [step, if_neg nofun, stepInside]
        exact addRecord_eq_ok_iff.mpr ⟨id, records, _, rfl, hread, rfl⟩

/-- Lines of these kinds lead the reader from one state to another. -/
inductive Reads : State → List LineKind → State → Prop
  | nil (state : State) : Reads state [] state
  | cons {state next final : State} {kind : LineKind} {rest : List LineKind}
      (hmoves : state.Moves kind next) (hrest : Reads next rest final) :
      Reads state (kind :: rest) final

theorem run_eq_ok_iff {state final : State} {first : Nat} {lines : List Text} :
    state.run first lines = .ok final ↔ state.Reads (lines.map LineKind.of) final := by
  induction lines generalizing state first with
  | nil =>
      constructor
      · intro hrun
        cases hrun
        exact .nil _
      · rintro ⟨⟩
        rfl
  | cons line rest ih =>
      rw [run, List.map_cons]
      cases hstep : state.step (LineKind.of line) with
      | error cause =>
          refine iff_of_false (fun herror => by cases herror) ?_
          rintro (_ | ⟨hmoves, -⟩)
          cases hstep.symm.trans (step_eq_ok_iff.mpr hmoves)
      | ok next =>
          rw [ih]
          constructor
          · exact .cons (step_eq_ok_iff.mp hstep)
          · rintro (_ | ⟨hmoves, hrest⟩)
            have hnext := Except.ok.inj (hstep.symm.trans (step_eq_ok_iff.mpr hmoves))
            rwa [hnext]

end State

theorem readLines_eq_ok_iff {lines : List Text} {snapshot : Snapshot} :
    readLines lines = .ok snapshot ↔
      ∃ final, State.initial.Reads (lines.map LineKind.of) final ∧ final.snapshot = snapshot := by
  have hrun := @State.run_eq_ok_iff State.initial
  rw [readLines]
  cases hresult : State.initial.run 1 lines with
  | error error =>
      refine iff_of_false (fun herror => by cases herror) ?_
      rintro ⟨final, hreads, -⟩
      cases hresult.symm.trans (hrun.mpr hreads)
  | ok state =>
      constructor
      · intro hsnapshot
        exact ⟨state, hrun.mp hresult, Except.ok.inj hsnapshot⟩
      · rintro ⟨final, hreads, hsnapshot⟩
        have hfinal := Except.ok.inj (hresult.symm.trans (hrun.mpr hreads))
        rw [hfinal, ← hsnapshot]
        rfl

end CacheCoherence.Dump
