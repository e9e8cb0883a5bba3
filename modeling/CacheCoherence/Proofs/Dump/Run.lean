import CacheCoherence.Dump.Reader

/-!
# Runs of the reader

The reader goes from state to state as the kinds of the lines ask; where a line
stands matters to errors and notices only.  A run in which no line is worth a
warning is described as a relation between states, without line numbers, and what
the reader returns and reports is read off it.
-/

namespace CacheCoherence.Dump.State

/-! ## Listings -/

theorem place_goTo (state : State) (place : Place) : (state.goTo place).place = place := by
  unfold goTo
  split <;> rfl

/-- Going to another place completes the open listing. -/
theorem complete_goTo (state : State) (place : Place) :
    (state.goTo place).complete.toList = state.listings := by
  unfold goTo listings
  split
  next cache hopen => rw [hopen, Option.toList_some, Array.toList_push]
  next hopen => rw [hopen, Option.toList_none, List.append_nil]

theorem listings_goTo_outside (state : State) :
    (state.goTo .outside).listings = state.listings := by
  rw [listings, complete_goTo, openListing?, place_goTo]
  exact List.append_nil _

/-! ## Runs without a warning -/

/-- Lines lead the reader from one state to another, and it warns of none of
them. -/
inductive ReadsQuietly : State → List Text → State → Prop
  | nil (state : State) : ReadsQuietly state [] state
  | cons {state next final : State} {line : Text} {rest : List Text}
      (hstep : state.step (LineKind.of line) = .ok next)
      (hquiet : ∀ number, ∀ notice ∈ state.notice? number (LineKind.of line),
        notice.entry.level ≠ .warn)
      (hrest : ReadsQuietly next rest final) : ReadsQuietly state (line :: rest) final

namespace ReadsQuietly

theorem append
    {state middle final : State} {front back : List Text}
    (hfront : state.ReadsQuietly front middle) (hback : middle.ReadsQuietly back final) :
    state.ReadsQuietly (front ++ back) final := by
  induction hfront with
  | nil state => exact hback
  | cons hstep hquiet _ ih => exact .cons hstep hquiet (ih hback)

theorem run_eq
    {state final : State} {lines : List Text} (h : state.ReadsQuietly lines final)
    (first : Nat) : state.run first lines = .ok final := by
  induction h generalizing first with
  | nil state => rfl
  | cons hstep hquiet _ ih => simp only [run, hstep, ih (first + 1)]

theorem level_ne_warn
    {state final : State} {lines : List Text} (h : state.ReadsQuietly lines final)
    (houtside : final.place = .outside) (first : Nat) :
    ∀ notice ∈ state.notices first lines, notice.entry.level ≠ .warn := by
  induction h generalizing first with
  | nil state =>
      intro notice hnotice
      simp only [notices, finalNotices, houtside, if_true, List.nil_append,
        List.mem_singleton] at hnotice
      rw [hnotice]
      exact nofun
  | cons hstep hquiet _ ih =>
      intro notice hnotice
      rw [notices, hstep, List.mem_append, Option.mem_toList] at hnotice
      rcases hnotice with hline | hrest
      · exact hquiet first notice hline
      · exact ih houtside (first + 1) notice hrest

end ReadsQuietly

end CacheCoherence.Dump.State
