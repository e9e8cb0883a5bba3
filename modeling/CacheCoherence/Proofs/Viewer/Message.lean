import CacheCoherence.Proofs.Viewer.Selection
import Mathlib.Data.List.Induction

/-!
# The message of a session

The message is written where a cache is selected and nowhere else.  Each event either leaves
the selection and the message as they are, or it selects another cache and tells the verdict
on that one.  So the message is the one of the beginning as long as the selection has not
moved, and from then on it is about the cache that is selected at present, even when this is
the first one again.
-/

namespace CacheCoherence.Viewer.Session

/-- The message tells the verdict on the selected cache. -/
def TellsSelected (session : Session) : Prop :=
  ∃ id, session.cache? = some id ∧
    session.message = verdictMessage session.verification.report id

theorem TellsSelected.of_kept {session next : Session} (h : session.TellsSelected)
    (hverification : next.verification = session.verification)
    (hselected : next.selected = session.selected) (hmessage : next.message = session.message) :
    next.TellsSelected := by
  obtain ⟨id, hcache, htells⟩ := h
  refine ⟨id, ?_, ?_⟩
  · rw [cache?, ids, hverification, hselected]
    exact hcache
  · rw [hmessage, hverification, htells]

/-! ## One event -/

section Event

variable {session : Session} {index : Nat}

theorem select_of_eq (heq : index = session.selected) : session.select index = session :=
  if_pos heq

theorem select_eq_of_ne (hne : index ≠ session.selected) :
    session.select index =
      { session with
        selected := index
        statisticsOffset := 0
        resultsOffset := 0
        message := session.ids[index]?.elim session.message
          (verdictMessage session.verification.report) } := by
  let moved := { session with selected := index, statisticsOffset := 0, resultsOffset := 0 }
  have hcache : moved.cache? = session.ids[index]? := rfl
  rw [select, if_neg hne]
  dsimp only
  rw [hcache]
  cases session.ids[index]? with
  | none => rfl
  | some id => rfl

theorem select_of_ne (hne : index ≠ session.selected) (hindex : index < session.ids.length) :
    session.select index =
      { session with
        selected := index
        statisticsOffset := 0
        resultsOffset := 0
        message := verdictMessage session.verification.report session.ids[index] } := by
  rw [select_eq_of_ne hne, List.getElem?_eq_getElem hindex]
  rfl

theorem tellsSelected_select
    (hne : index ≠ session.selected) (hindex : index < session.ids.length) :
    (session.select index).TellsSelected := by
  rw [select_of_ne hne hindex]
  exact ⟨session.ids[index], List.getElem?_eq_getElem hindex, rfl⟩

theorem KeyStep.message_eq {next : Session} (hstep : session.KeyStep next)
    (hstays : next.selected = session.selected) : next.message = session.message := by
  cases hstep with
  | select _ =>
      rw [selected_select] at hstays
      rw [select_of_eq hstays]
  | keep hkeeps => exact hkeeps.message_eq

/-- A key that moves the selection selects another of the caches. -/
theorem IsOn.exists_select
    {verification : Verification} {next : Session} (h : session.IsOn verification)
    (hstep : session.KeyStep next) (hmoves : next.selected ≠ session.selected) :
    ∃ index, index ≠ session.selected ∧ index < session.ids.length ∧
      next = session.select index := by
  cases hstep with
  | @select index hindex =>
      rw [selected_select] at hmoves
      refine ⟨index, hmoves, ?_, rfl⟩
      have hselected : session.selected ≤ session.ids.length - 1 := h.selected_le
      rw [lastIndex] at hindex
      omega
  | keep hkeeps => exact absurd hkeeps.selected_eq hmoves

theorem IsOn.message_after
    {verification : Verification} (h : session.IsOn verification) (event : Event) :
    ((session.after event).selected = session.selected ∧
        (session.after event).message = session.message) ∨
      ((session.after event).selected ≠ session.selected ∧
        (session.after event).TellsSelected) := by
  cases event with
  | key key =>
      have hstep : session.KeyStep (session.press key) := session.keyStep_press key
      by_cases hstays : (session.press key).selected = session.selected
      · exact .inl ⟨hstays, hstep.message_eq hstays⟩
      · obtain ⟨index, hne, hindex, heq⟩ := h.exists_select hstep hstays
        refine .inr ⟨hstays, ?_⟩
        change (session.press key).TellsSelected
        rw [heq]
        exact tellsSelected_select hne hindex
  | draw width height => exact .inl ⟨rfl, rfl⟩

end Event

/-! ## A run of events -/

/-- The first cache has been the selected one from the beginning on. -/
def StaysFirst (verification : Verification) (events : List Event) : Prop :=
  ∀ front, front <+: events → ((start verification).run front).selected = 0

theorem staysFirst_concat_iff
    {verification : Verification} {events : List Event} {event : Event} :
    StaysFirst verification (events ++ [event]) ↔
      StaysFirst verification events ∧
        ((start verification).run (events ++ [event])).selected = 0 := by
  constructor
  · intro h
    exact ⟨fun front hfront => h front (hfront.trans (List.prefix_append events [event])),
      h _ (List.prefix_refl _)⟩
  · rintro ⟨hevents, hlast⟩ front hfront
    rcases List.prefix_concat_iff.mp hfront with rfl | hfront
    · exact hlast
    · exact hevents front hfront

theorem message_run_start (verification : Verification) (events : List Event) :
    (StaysFirst verification events ∧
        ((start verification).run events).message = "Verified " ++ verification.source) ∨
      (¬ StaysFirst verification events ∧ ((start verification).run events).TellsSelected) := by
  induction events using List.reverseRecOn with
  | nil =>
      refine .inl ⟨fun front hfront => ?_, rfl⟩
      rw [List.prefix_nil.mp hfront]
      rfl
  | append_singleton events event ih =>
      have hon : ((start verification).run events).IsOn verification :=
        (isOn_start verification).run events
      have hnext := hon.message_after event
      have hverification :
          (((start verification).run events).after event).verification =
            ((start verification).run events).verification :=
        (hon.after event).verification_eq.trans hon.verification_eq.symm
      rw [staysFirst_concat_iff, run_concat]
      rcases ih with ⟨hfirst, hbegin⟩ | ⟨hmoved, htells⟩
      · have hselected : ((start verification).run events).selected = 0 :=
          hfirst events (List.prefix_refl _)
        rcases hnext with ⟨hstays, hmessage⟩ | ⟨hmoves, htells⟩
        · exact .inl ⟨⟨hfirst, hstays.trans hselected⟩, hmessage.trans hbegin⟩
        · exact .inr ⟨fun h => hmoves (h.2.trans hselected.symm), htells⟩
      · -- Once the selection has moved, only the verdict on a selected cache is told.
        refine .inr ⟨fun h => hmoved h.1, ?_⟩
        rcases hnext with ⟨hstays, hmessage⟩ | ⟨-, htells⟩
        · exact htells.of_kept hverification hstays hmessage
        · exact htells

/-- The message of a session is up to date.  It is that of the beginning if the selection has
never moved, and tells the verdict on the selected cache otherwise.  A key that moves the
selection brings the other panes back to their first rows, and one that does not leaves the
message alone. -/
theorem run_start_keeps_message_up_to_date (verification : Verification) (events : List Event) :
    let session := (start verification).run events
    ((StaysFirst verification events ∧ session.selected = 0 ∧
          session.message = "Verified " ++ verification.source) ∨
        (¬ StaysFirst verification events ∧ ∃ id, session.cache? = some id ∧
          session.message = verdictMessage verification.report id)) ∧
      ∀ key, let next := session.press key
        (next.selected ≠ session.selected →
          next.statisticsOffset = 0 ∧ next.resultsOffset = 0) ∧
        (next.selected = session.selected → next.message = session.message) := by
  intro session
  have hon : session.IsOn verification := (isOn_start verification).run events
  constructor
  · rcases message_run_start verification events with ⟨hfirst, hbegin⟩ | ⟨hmoved, htells⟩
    · exact .inl ⟨hfirst, hfirst events (List.prefix_refl _), hbegin⟩
    · obtain ⟨id, hcache, hmessage⟩ := htells
      rw [hon.verification_eq] at hmessage
      exact .inr ⟨hmoved, id, hcache, hmessage⟩
  · intro key next
    have hstep : session.KeyStep next := session.keyStep_press key
    constructor
    · intro hmoves
      obtain ⟨index, hne, hindex, heq⟩ := hon.exists_select hstep hmoves
      rw [heq, select_of_ne hne hindex]
      exact ⟨rfl, rfl⟩
    · exact hstep.message_eq

/-- The selection goes to the second cache and back. -/
example :
    let caches : Snapshot := ⟨[⟨⟨4⟩, []⟩, ⟨⟨7⟩, []⟩], by decide⟩
    let session := start (Verification.ofSnapshot "dump.out" .mesi .exhaustive caches)
    (session.run [.key .up]).message = "Verified dump.out" ∧
      (session.run [.key .down]).message = "Cache 7 passed" ∧
      (session.run [.key .down, .key .home]).message = "Cache 4 passed" :=
  ⟨rfl, rfl, rfl⟩

end CacheCoherence.Viewer.Session
