import CacheCoherence.Viewer.Screen

/-!
# Runs of a session

A session goes on by keys and by drawings, in any order, and the screen may have another
size each time that it is drawn on.  What one key can do is said once: it either selects a
cache or leaves the selection, the list of caches and the message alone.  What holds of a
session at its beginning, and behind every event when it holds in front of it, holds
throughout a run.
-/

namespace CacheCoherence.Viewer

/-- What changes a session: a key that is pressed, or a drawing on a screen of some size. -/
inductive Event where
  | key (key : Key)
  | draw (width height : UInt16)

namespace Session

/-- The session behind an event. -/
def after (session : Session) : Event → Session
  | .key key => session.press key
  | .draw width height => session.settle ⟨width.toNat, height.toNat⟩

/-- The session behind some events in a row. -/
def run (session : Session) (events : List Event) : Session :=
  events.foldl after session

theorem run_induction
    {P : Session → Prop} (hafter : ∀ session event, P session → P (session.after event))
    {session : Session} (hbegin : P session) (events : List Event) : P (session.run events) := by
  induction events generalizing session with
  | nil => exact hbegin
  | cons event rest ih => exact ih (hafter session event hbegin)

theorem run_concat (session : Session) (events : List Event) (event : Event) :
    session.run (events ++ [event]) = (session.run events).after event := by
  rw [run, List.foldl_append, ← run]
  rfl

/-! ## Selecting -/

variable (session : Session) (index : Nat)

@[simp] theorem verification_select :
    (session.select index).verification = session.verification := by
  unfold select
  split
  · rfl
  · dsimp only
    split <;> rfl

@[simp] theorem selected_select : (session.select index).selected = index := by
  unfold select
  split
  next h => exact h.symm
  next =>
    dsimp only
    split <;> rfl

@[simp] theorem focus_select : (session.select index).focus = session.focus := by
  unfold select
  split
  · rfl
  · dsimp only
    split <;> rfl

@[simp] theorem lastIndex_select : (session.select index).lastIndex = session.lastIndex := by
  rw [lastIndex, ids, verification_select]
  rfl

@[simp] theorem cachesOffset_select :
    (session.select index).cachesOffset = session.cachesOffset := by
  unfold select
  split
  · rfl
  · dsimp only
    split <;> rfl

/-! ## Keys -/

section Caches

variable {session : Session} (hfocus : session.focus = .caches) (rows : Nat)
include hfocus

theorem moveDown_of_caches :
    session.moveDown rows = session.select (min (session.selected + rows) session.lastIndex) := by
  rw [moveDown, hfocus]

theorem moveUp_of_caches : session.moveUp rows = session.select (session.selected - rows) := by
  rw [moveUp, hfocus]

end Caches

/-- The next session has the same verification, list of caches and message; the focus, the
other offsets and the wish to quit may differ. -/
structure KeepsList (session next : Session) : Prop where
  verification_eq : next.verification = session.verification
  selected_eq : next.selected = session.selected
  cachesOffset_eq : next.cachesOffset = session.cachesOffset
  message_eq : next.message = session.message

/-- What a key can do to a session: it keeps the list, or it selects a cache, no further down
than the last cache and the present selection. -/
inductive KeyStep (session : Session) : Session → Prop where
  | select {index : Nat} (hindex : index ≤ max session.selected session.lastIndex) :
      session.KeyStep (session.select index)
  | keep {next : Session} (hkeeps : session.KeepsList next) : session.KeyStep next

theorem KeyStep.cachesOffset_eq {session next : Session} (hstep : session.KeyStep next) :
    next.cachesOffset = session.cachesOffset := by
  cases hstep with
  | @select index _ => exact session.cachesOffset_select index
  | keep hkeeps => exact hkeeps.cachesOffset_eq

theorem keyStep_moveUp (rows : Nat) : session.KeyStep (session.moveUp rows) := by
  unfold moveUp
  split
  · have hup : session.selected - rows ≤ session.selected := Nat.sub_le _ _
    exact .select (Nat.le_trans hup (Nat.le_max_left _ _))
  · exact .keep ⟨rfl, rfl, rfl, rfl⟩
  · exact .keep ⟨rfl, rfl, rfl, rfl⟩

theorem keyStep_moveDown (rows : Nat) : session.KeyStep (session.moveDown rows) := by
  unfold moveDown
  split
  · have hlast : min (session.selected + rows) session.lastIndex ≤ session.lastIndex :=
      Nat.min_le_right _ _
    exact .select (Nat.le_trans hlast (Nat.le_max_right _ _))
  · exact .keep ⟨rfl, rfl, rfl, rfl⟩
  · exact .keep ⟨rfl, rfl, rfl, rfl⟩

theorem keyStep_press (key : Key) : session.KeyStep (session.press key) := by
  cases key with
  | up => exact session.keyStep_moveUp 1
  | down => exact session.keyStep_moveDown 1
  | pageUp => exact session.keyStep_moveUp pageRows
  | pageDown => exact session.keyStep_moveDown pageRows
  | home => exact .select (Nat.zero_le _)
  | endKey => exact .select (Nat.le_max_right _ _)
  | tab => exact .keep ⟨rfl, rfl, rfl, rfl⟩
  | backTab => exact .keep ⟨rfl, rfl, rfl, rfl⟩
  | escape => exact .keep ⟨rfl, rfl, rfl, rfl⟩
  | character c =>
      rw [press]
      by_cases hquit : c = 'q' ∨ c = 'Q'
      · rw [if_pos hquit]
        exact .keep ⟨rfl, rfl, rfl, rfl⟩
      · rw [if_neg hquit]
        exact .keep ⟨rfl, rfl, rfl, rfl⟩
  | other => exact .keep ⟨rfl, rfl, rfl, rfl⟩

end Session

end CacheCoherence.Viewer
