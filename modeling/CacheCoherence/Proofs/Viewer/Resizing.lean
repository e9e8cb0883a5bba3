import CacheCoherence.Proofs.Viewer.Selection

/-!
# The list of caches on a screen that changes its height

A drawing moves the list of caches only when the selected row is outside the window.  It
does not take the list back when the window has become higher, so that rows can stay hidden
above the window while there are empty ones below the last cache.

How far the list gets depends on the lowest window so far, and with the last cache selected
it gets as far as this window asks for.  So the heights alone tell, whatever the keys are,
whether the list is certain to be within its end behind a drawing: every window before has
to have been at least as high, or high enough for the whole list.
-/

namespace CacheCoherence.Viewer

/-- The number of rows for the list of caches on a screen of this height. -/
def listRows (height : UInt16) : Nat :=
  visibleHeight (mainHeight height.toNat)

/-- The height of the screen in a drawing. -/
def Event.height? : Event → Option UInt16
  | .key _ => none
  | .draw _ height => some height

/-- The heights of the screen in the drawings among some events. -/
def drawnHeights (events : List Event) : List UInt16 :=
  events.filterMap Event.height?

theorem forall_mem_drawnHeights_cons {P : UInt16 → Prop} {event : Event} {rest : List Event} :
    (∀ height ∈ drawnHeights (event :: rest), P height) ↔
      (∀ height, event.height? = some height → P height) ∧
        ∀ height ∈ drawnHeights rest, P height := by
  cases event with
  | key key => simp [drawnHeights, Event.height?]
  | draw width height => simp [drawnHeights, Event.height?]

theorem drawnHeights_concat_draw (events : List Event) (width height : UInt16) :
    drawnHeights (events ++ [.draw width height]) = drawnHeights events ++ [height] := by
  rw [drawnHeights, List.filterMap_append]
  rfl

/-! ## Windows that follow a row -/

/-- A window that follows a row of the list leaves room for as many rows at the end of the
list as there were, if it has so many itself. -/
theorem followOffset_add_le
    {height row offset rows count : Nat} (hrows : rows ≤ visibleHeight height) (hrow : row < count)
    (hoffset : offset + rows ≤ count) : followOffset height row offset + rows ≤ count := by
  unfold followOffset
  split
  · omega
  · split <;> omega

/-- A window that follows a row below its first one is moved down only, far enough for the row. -/
theorem le_followOffset (height : Nat) {row offset : Nat} (hoffset : offset ≤ row) :
    offset ≤ followOffset height row offset ∧
      row + 1 ≤ followOffset height row offset + visibleHeight height := by
  unfold followOffset
  split
  · omega
  · split <;> omega

namespace Session

/-- No row of the list of caches is hidden above the window while there are empty rows below
the list, on a screen of this height. -/
def IsWithinList (session : Session) (height : UInt16) : Prop :=
  session.cachesOffset + listRows height ≤ max session.ids.length (listRows height)

theorem isWithinList_iff {session : Session} {height : UInt16} :
    session.IsWithinList height ↔
      session.cachesOffset + min session.ids.length (listRows height) ≤ session.ids.length := by
  unfold IsWithinList
  omega

/-! ## One event -/

section Event

variable {session : Session} {verification : Verification}

theorem IsOn.length_ids_after (h : session.IsOn verification) (event : Event) :
    (session.after event).ids.length = session.ids.length := by
  rw [(h.after event).ids_eq, h.ids_eq]

theorem cachesOffset_draw (hne : session.ids ≠ []) (width height : UInt16) :
    (session.after (.draw width height)).cachesOffset =
      followOffset (mainHeight height.toNat) session.selected session.cachesOffset :=
  cachesOffset_settle hne ⟨width.toNat, height.toNat⟩

/-- Room for some rows at the end of the list is kept by keys, and by drawings with so many rows. -/
theorem IsOn.cachesOffset_after_add_le
    (h : session.IsOn verification) {event : Event} {rows : Nat}
    (hrows : ∀ height, event.height? = some height → rows ≤ listRows height)
    (hoffset : session.cachesOffset + rows ≤ session.ids.length) :
    (session.after event).cachesOffset + rows ≤ session.ids.length := by
  cases event with
  | key key =>
      have hkey : (session.press key).cachesOffset = session.cachesOffset :=
        (session.keyStep_press key).cachesOffset_eq
      change (session.press key).cachesOffset + rows ≤ session.ids.length
      rwa [hkey]
  | draw width height =>
      by_cases hne : session.ids = []
      · have hsettle : (session.after (.draw width height)).cachesOffset = session.cachesOffset :=
          if_pos (List.length_eq_zero_iff.mpr hne)
        rwa [hsettle]
      · rw [cachesOffset_draw hne]
        exact followOffset_add_le (hrows height rfl) (h.selected_lt hne) hoffset

end Event

/-! ## A run of events -/

/-- Room for some rows at the end of the list is kept as long as no window is lower. -/
theorem IsOn.cachesOffset_run_add_le
    {session : Session} {verification : Verification} (h : session.IsOn verification)
    {events : List Event} {rows : Nat}
    (hrows : ∀ height ∈ drawnHeights events, rows ≤ listRows height)
    (hoffset : session.cachesOffset + rows ≤ session.ids.length) :
    (session.run events).cachesOffset + rows ≤ session.ids.length := by
  induction events generalizing session with
  | nil => exact hoffset
  | cons event rest ih =>
      rw [forall_mem_drawnHeights_cons] at hrows
      have hnext := h.cachesOffset_after_add_le hrows.1 hoffset
      rw [← h.length_ids_after event] at hnext ⊢
      exact ih (h.after event) hrows.2 hnext

/-- Drawings on screens of these heights, one after the other. -/
def drawings (heights : List UInt16) : List Event :=
  heights.map (Event.draw 1)

/-- With the last cache selected, the list is moved as far as the lowest of the windows asks for. -/
theorem IsOn.le_cachesOffset_run_drawings
    {session : Session} {verification : Verification} (h : session.IsOn verification)
    (hne : session.ids ≠ []) (hlast : session.selected = session.lastIndex)
    (heights : List UInt16) :
    session.cachesOffset ≤ (session.run (drawings heights)).cachesOffset ∧
      ∀ height ∈ heights, session.ids.length ≤
        (session.run (drawings heights)).cachesOffset + listRows height := by
  induction heights generalizing session with
  | nil => exact ⟨Nat.le_refl _, nofun⟩
  | cons height rest ih =>
      have hoffset : session.cachesOffset ≤ session.selected := hlast ▸ h.cachesOffset_le
      have hfollow := le_followOffset (mainHeight height.toNat) hoffset
      rw [← cachesOffset_draw hne 1 height] at hfollow
      have hrest := ih (h.after (.draw 1 height)) hne hlast
      have hrun : session.run (drawings (height :: rest)) =
          (session.after (.draw 1 height)).run (drawings rest) := rfl
      rw [hrun]
      refine ⟨Nat.le_trans hfollow.1 hrest.1, ?_⟩
      intro other hother
      rcases List.mem_cons.mp hother with rfl | hmem
      · have hrows : listRows other = visibleHeight (mainHeight other.toNat) := rfl
        have hcount : session.selected = session.ids.length - 1 := hlast
        omega
      · exact hrest.2 other hmem

/-- The keys and drawings that move the list furthest: the last cache is selected first, so that
every window asks for the end of the list. -/
def drawingsOfEnd (heights : List UInt16) : List Event :=
  .key .endKey :: drawings heights

theorem drawnHeights_drawingsOfEnd (heights : List UInt16) :
    drawnHeights (drawingsOfEnd heights) = heights := by
  rw [drawnHeights, drawingsOfEnd, drawings, List.filterMap_cons_none rfl, List.filterMap_map]
  exact List.filterMap_some

theorem drawingsOfEnd_concat (heights : List UInt16) (height : UInt16) :
    drawingsOfEnd heights ++ [.draw 1 height] = drawingsOfEnd (heights ++ [height]) := by
  rw [drawingsOfEnd, drawingsOfEnd, drawings, drawings, List.map_append]
  rfl

theorem IsOn.length_le_run_drawingsOfEnd
    {session : Session} {verification : Verification} (h : session.IsOn verification)
    (hne : session.ids ≠ []) {heights : List UInt16} {height : UInt16}
    (hheight : height ∈ heights) :
    session.ids.length ≤ (session.run (drawingsOfEnd heights)).cachesOffset + listRows height := by
  have hended : (session.press .endKey).IsOn verification := h.after (.key .endKey)
  have hids : (session.press .endKey).ids = session.ids := hended.ids_eq.trans h.ids_eq.symm
  have hlast : (session.press .endKey).selected = (session.press .endKey).lastIndex := by
    rw [lastIndex, hids]
    exact selected_select _ _
  have hfar := (hended.le_cachesOffset_run_drawings (hids ▸ hne) hlast heights).2 height hheight
  rwa [hids] at hfar

/-- The end of the list is kept in a drawing, whatever keys are pressed before it, exactly if the
list fits into every lower window of the drawings before. -/
theorem run_start_within_list_iff
    (verification : Verification) (heights : List UInt16) (height : UInt16) :
    (∀ events width, drawnHeights events = heights →
        ((start verification).run (events ++ [.draw width height])).IsWithinList height) ↔
      ∀ before ∈ heights, verification.snapshot.ids.length ≤ listRows before ∨
        listRows height ≤ listRows before := by
  have hstart : (start verification).IsOn verification := isOn_start verification
  constructor
  · intro hwithin before hbefore
    by_contra hlower
    rw [not_or, Nat.not_le, Nat.not_le] at hlower
    have hne : (start verification).ids ≠ [] := by
      rw [hstart.ids_eq]
      apply List.ne_nil_of_length_pos
      omega
    have hfar := hstart.length_le_run_drawingsOfEnd hne (List.mem_append_left [height] hbefore)
    have hshown := hwithin (drawingsOfEnd heights) 1 (drawnHeights_drawingsOfEnd heights)
    rw [drawingsOfEnd_concat, isWithinList_iff, (hstart.run _).ids_eq] at hshown
    rw [hstart.ids_eq] at hfar
    omega
  · intro hheights events width hevents
    let rows := min verification.snapshot.ids.length (listRows height)
    have hrows :
        ∀ drawn ∈ drawnHeights (events ++ [.draw width height]), rows ≤ listRows drawn := by
      rw [drawnHeights_concat_draw, hevents, List.forall_mem_append, List.forall_mem_singleton]
      refine ⟨fun before hbefore => ?_, Nat.min_le_right _ _⟩
      rcases hheights before hbefore with hfits | hhigher
      · exact Nat.le_trans (Nat.min_le_left _ _) hfits
      · exact Nat.le_trans (Nat.min_le_right _ _) hhigher
    have hbegin : (start verification).cachesOffset + rows ≤ (start verification).ids.length := by
      rw [hstart.ids_eq, start, Nat.zero_add]
      exact Nat.min_le_left _ _
    have hroom := hstart.cachesOffset_run_add_le hrows hbegin
    rw [isWithinList_iff, (hstart.run _).ids_eq]
    rwa [hstart.ids_eq] at hroom

/-- The last of two caches is selected in a window of one row, before the window grows. -/
theorem not_isWithinList_on_higher_screen :
    let caches : Snapshot := ⟨[⟨⟨0⟩, []⟩, ⟨⟨1⟩, []⟩], by decide⟩
    let session := (start (Verification.ofSnapshot "dump.out" .mesi .exhaustive caches)).run
      [.draw 80 4, .key .endKey, .draw 80 4, .draw 80 24]
    session.cachesOffset = 1 ∧ session.ids.length = 2 ∧ listRows 24 = 21 ∧
      ¬ session.IsWithinList 24 := by
  refine ⟨rfl, rfl, rfl, ?_⟩
  unfold IsWithinList
  decide

end Session

end CacheCoherence.Viewer
