import CacheCoherence.Proofs.Viewer.Message
import CacheCoherence.Proofs.Viewer.Offsets

/-!
# Page keys

A page key moves by ten rows in one step, and an arrow key by one.  On a screen that keeps
its size, a page key does to a drawn session what ten arrow keys do with a drawing behind
each, near the ends of the rows too.

In the list of caches the window shows the selection to begin with, and it gets to the same
place whether it follows the selection row by row or at once.  What is selected and told on
the way is overwritten by the last step.  In the other panes an offset that is cut off on
the way would have been cut off at the end as well.
-/

namespace CacheCoherence.Viewer

/-! ## The list of caches -/

/-- A window that shows a row follows it to another one by way of any row in between. -/
theorem followOffset_followOffset
    {height row offset between target : Nat}
    (hshown : offset ≤ row ∧ row < offset + visibleHeight height)
    (hbetween : min row target ≤ between ∧ between ≤ max row target) :
    followOffset height target (followOffset height between offset) =
      followOffset height target offset := by
  have hpos := visibleHeight_pos height
  unfold followOffset
  by_cases habove : between < offset
  · simp only [if_pos habove]
    split_ifs <;> omega
  · simp only [if_neg habove]
    by_cases hbelow : offset + visibleHeight height ≤ between
    · simp only [if_pos hbelow]
      split_ifs <;> omega
    · simp only [if_neg hbelow]

namespace Session

section Drawn

variable {session : Session} {size : Size} (hdrawn : session.settle size = session)
include hdrawn

theorem settle_cachesOffset_between
    {between target : Nat}
    (hbetween : min session.selected target ≤ between ∧ between ≤ max session.selected target) :
    let settle := CachesPane.settle (mainHeight size.height) session.ids.length
    settle target (settle between session.cachesOffset) = settle target session.cachesOffset := by
  have hoffset : CachesPane.settle (mainHeight size.height) session.ids.length session.selected
      session.cachesOffset = session.cachesOffset := settledOffset_offset hdrawn .caches
  unfold CachesPane.settle at *
  by_cases hnone : session.ids.length = 0
  · simp only [if_pos hnone]
  · simp only [if_neg hnone] at *
    have hshown := followOffset_shows (mainHeight size.height) session.selected
      session.cachesOffset
    rw [hoffset] at hshown
    exact followOffset_followOffset hshown hbetween

/-- A cache can be selected by way of one that stands in between. -/
theorem settle_select_settle_select
    {between target : Nat}
    (hbetween : min session.selected target ≤ between ∧ between ≤ max session.selected target)
    (hlisted : between < session.ids.length → target < session.ids.length) :
    (((session.select between).settle size).select target).settle size =
      (session.select target).settle size := by
  by_cases hstart : between = session.selected
  · rw [select_of_eq hstart, hdrawn]
  by_cases hend : target = between
  · subst hend
    have hselected : ((session.select target).settle size).selected = target :=
      selected_select session target
    rw [select_of_eq hselected.symm, settle_settle]
  have hne : target ≠ session.selected := by omega
  have hoffset := settle_cachesOffset_between hdrawn hbetween
  -- Of the two messages only the later one is left, unless neither cache is listed.
  have hmessage : session.ids[target]?.elim
      (session.ids[between]?.elim session.message (verdictMessage session.verification.report))
      (verdictMessage session.verification.report) =
        session.ids[target]?.elim session.message
          (verdictMessage session.verification.report) := by
    by_cases htarget : target < session.ids.length
    · rw [List.getElem?_eq_getElem htarget]
      rfl
    · have hnone : session.ids[between]? = none :=
        List.getElem?_eq_none (Nat.not_lt.mp (mt hlisted htarget))
      rw [hnone]
      rfl
  rw [select_eq_of_ne hne, select_eq_of_ne hstart, select_eq_of_ne hend]
  simp only [settle, Session.mk.injEq, true_and]
  exact ⟨hoffset, rfl, rfl, hmessage⟩

/-! ## Two moves with a drawing in between -/

theorem settle_moveDown_settle_moveDown (rows more : Nat) :
    (((session.moveDown rows).settle size).moveDown more).settle size =
      (session.moveDown (rows + more)).settle size := by
  by_cases hpane : session.focus = .caches
  · let between := min (session.selected + rows) session.lastIndex
    let middle := (session.select between).settle size
    have hmiddle : middle.focus = .caches := (focus_select session between).trans hpane
    have hselected : middle.selected = between := selected_select session between
    have hlast : middle.lastIndex = session.lastIndex := lastIndex_select session between
    have htarget : min (between + more) session.lastIndex =
        min (session.selected + (rows + more)) session.lastIndex := by omega
    rw [moveDown_of_caches hpane, moveDown_of_caches hmiddle, hselected, hlast, htarget,
      moveDown_of_caches hpane]
    refine settle_select_settle_select hdrawn ?_ ?_
    · omega
    · intro hlisted
      rw [lastIndex]
      omega
  · let pane := session.focus
    let between := session.settledOffset size pane (min (session.offset pane + rows) maxOffset)
    let target := min (session.offset pane + (rows + more)) maxOffset
    have hmiddle : (session.moveDown rows).settle size = session.withOffset pane between := by
      rw [moveDown_eq_withOffset rfl hpane, settle_withOffset hdrawn]
    have hfocus : (session.withOffset pane between).focus = pane := focus_withOffset _ _ _
    calc
      (((session.moveDown rows).settle size).moveDown more).settle size
      _ = (session.withOffset pane (min (between + more) maxOffset)).settle size := by
        rw [hmiddle, moveDown_eq_withOffset hfocus hpane, offset_withOffset, withOffset_withOffset]
      _ = session.withOffset pane (session.settledOffset size pane target) := by
        rw [settle_withOffset hdrawn, settledOffset_raise hpane]
      _ = (session.moveDown (rows + more)).settle size := by
        rw [moveDown_eq_withOffset rfl hpane, settle_withOffset hdrawn]

theorem settle_moveUp_settle_moveUp (rows more : Nat) :
    (((session.moveUp rows).settle size).moveUp more).settle size =
      (session.moveUp (rows + more)).settle size := by
  by_cases hpane : session.focus = .caches
  · let between := session.selected - rows
    let middle := (session.select between).settle size
    have hmiddle : middle.focus = .caches := (focus_select session between).trans hpane
    have hselected : middle.selected = between := selected_select session between
    have htarget : between - more = session.selected - (rows + more) := Nat.sub_sub _ _ _
    rw [moveUp_of_caches hpane, moveUp_of_caches hmiddle, hselected, htarget,
      moveUp_of_caches hpane]
    refine settle_select_settle_select hdrawn ?_ ?_
    · omega
    · omega
  · let pane := session.focus
    let between := session.settledOffset size pane (session.offset pane - rows)
    have hmiddle : (session.moveUp rows).settle size = session.withOffset pane between := by
      rw [moveUp_eq_withOffset rfl hpane, settle_withOffset hdrawn]
    have hfocus : (session.withOffset pane between).focus = pane := focus_withOffset _ _ _
    calc
      (((session.moveUp rows).settle size).moveUp more).settle size
      _ = (session.withOffset pane (between - more)).settle size := by
        rw [hmiddle, moveUp_eq_withOffset hfocus hpane, offset_withOffset, withOffset_withOffset]
      _ = session.withOffset pane
          (session.settledOffset size pane (session.offset pane - (rows + more))) := by
        rw [settle_withOffset hdrawn,
          settledOffset_lower hpane (settledOffset_offset hdrawn pane)]
      _ = (session.moveUp (rows + more)).settle size := by
        rw [moveUp_eq_withOffset rfl hpane, settle_withOffset hdrawn]

end Drawn

/-! ## A key that is pressed repeatedly -/

/-- A key that is pressed so many times, with a drawing on a screen of this size behind each. -/
def presses (key : Key) (width height : UInt16) (count : Nat) : List Event :=
  (List.replicate count [.key key, .draw width height]).flatten

theorem run_presses_succ
    (session : Session) (key : Key) (width height : UInt16) (count : Nat) :
    session.run (presses key width height (count + 1)) =
      ((session.run (presses key width height count)).press key).after (.draw width height) := by
  have hpresses : presses key width height (count + 1) =
      presses key width height count ++ [.key key] ++ [.draw width height] := by
    rw [presses, List.replicate_succ', List.flatten_concat, ← presses, List.append_assoc]
    rfl
  rw [hpresses, run_concat, run_concat]
  rfl

section Drawn

variable {session : Session} {width height : UInt16}
  (hdrawn : session.after (.draw width height) = session)
include hdrawn

/-- Steps down with a drawing behind each come to the same as one move by all of them. -/
theorem run_presses_down (count : Nat) :
    session.run (presses .down width height (count + 1)) =
      (session.moveDown (count + 1)).after (.draw width height) := by
  induction count with
  | zero => rfl
  | succ count ih =>
      rw [run_presses_succ, ih]
      exact settle_moveDown_settle_moveDown hdrawn (count + 1) 1

theorem run_presses_up (count : Nat) :
    session.run (presses .up width height (count + 1)) =
      (session.moveUp (count + 1)).after (.draw width height) := by
  induction count with
  | zero => rfl
  | succ count ih =>
      rw [run_presses_succ, ih]
      exact settle_moveUp_settle_moveUp hdrawn (count + 1) 1

end Drawn

/-- In a session that has been drawn, a page key and a drawing do in every respect what ten
arrow keys do with a drawing behind each, whichever pane has the focus. -/
theorem run_page_eq_run_steps (session : Session) (width height : UInt16) :
    let drawn := session.after (.draw width height)
    drawn.run (presses .pageDown width height 1) = drawn.run (presses .down width height 10) ∧
      drawn.run (presses .pageUp width height 1) = drawn.run (presses .up width height 10) := by
  intro drawn
  have hdrawn : drawn.after (.draw width height) = drawn := settle_settle session _
  rw [run_presses_down hdrawn, run_presses_up hdrawn]
  exact ⟨rfl, rfl⟩

/-- Near the end of three caches, in a window of two rows. -/
example :
    let caches : Snapshot := ⟨[⟨⟨4⟩, []⟩, ⟨⟨7⟩, []⟩, ⟨⟨9⟩, []⟩], by decide⟩
    let session := start (Verification.ofSnapshot "dump.out" .mesi .exhaustive caches)
    let below := session.run (.draw 80 5 :: presses .pageDown 80 5 1)
    below.selected = 2 ∧ below.cachesOffset = 1 ∧ below.message = "Cache 9 passed" :=
  ⟨rfl, rfl, rfl⟩

end Session

end CacheCoherence.Viewer
