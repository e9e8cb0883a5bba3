import CacheCoherence.Proofs.Viewer.Run
import Mathlib.Data.List.Nodup
import Mathlib.Data.List.Perm.Subperm

/-!
# The selection stays in view

Through all keys and drawings a session keeps its verification, and neither the selection
nor the offset of the list of caches gets behind the last cache.  So a selected cache is
one of the snapshot, and each drawing brings its row into the window, whatever size the
screen has been before.  Of the rows in the window this one is highlighted, and no other.

Offsets are words of sixty-four bits.  A snapshot has at most as many caches as there are
identifiers of thirty-two bits, and a pane is at most as high as a number of sixteen bits
says, so that the sums on the way to a settled offset are far from the greatest word.
-/

namespace CacheCoherence

/-- There are no more caches in a snapshot than identifiers of thirty-two bits. -/
theorem Snapshot.length_ids_le (snapshot : Snapshot) : snapshot.ids.length ≤ UInt32.size := by
  have hnodup : (snapshot.ids.map fun id => id.number.toNat).Nodup :=
    snapshot.nodup_ids.map fun _ _ h => CacheId.eq_of_toNat_eq h
  have hrange : (snapshot.ids.map fun id => id.number.toNat) ⊆ List.range UInt32.size := by
    intro number hnumber
    obtain ⟨id, -, rfl⟩ := List.mem_map.mp hnumber
    exact List.mem_range.mpr id.number.toNat_lt_size
  have hlength := (hnodup.subperm hrange).length_le
  rwa [List.length_map, List.length_range] at hlength

namespace Viewer

/-! ## Windows that follow a row -/

theorem getElem?_window {α : Type} (height offset index : Nat) (rows : List α) :
    (window height offset rows)[index]? =
      if index < visibleHeight height then rows[offset + index]? else none := by
  rw [window, List.getElem?_take, List.getElem?_drop]

/-- A row that a window shows is found at its distance from the offset. -/
theorem getElem?_window_sub
    {α : Type} {height offset row : Nat} (rows : List α) (habove : offset ≤ row)
    (hbelow : row < offset + visibleHeight height) :
    (window height offset rows)[row - offset]? = rows[row]? := by
  have hrow : row - offset < visibleHeight height := by omega
  rw [getElem?_window, if_pos hrow, Nat.add_sub_cancel' habove]

theorem followOffset_le_max (height row offset : Nat) :
    followOffset height row offset ≤ max row offset :=
  Nat.le_trans (followOffset_shows height row offset).1 (Nat.le_max_left _ _)

/-- A number that a word of sixty-four bits holds. -/
def word? (n : Nat) : Option Nat :=
  if n < UInt64.size then some n else none

/-- The offset at which a window follows a row, computed in words: nothing when a sum does
not fit into a word or a difference is negative. -/
def followOffset? (height row offset : Nat) : Option Nat :=
  if row < offset then some row
  else
    (word? (offset + visibleHeight height)).bind fun stop =>
      if stop ≤ row then
        (word? (row + 1)).bind fun next =>
          if visibleHeight height ≤ next then some (next - visibleHeight height) else none
      else some offset

theorem followOffset?_eq
    {height row offset : Nat} (hstop : offset + visibleHeight height < UInt64.size)
    (hnext : row + 1 < UInt64.size) :
    followOffset? height row offset = some (followOffset height row offset) := by
  unfold followOffset? followOffset
  rw [word?, if_pos hstop, word?, if_pos hnext, Option.bind_some, Option.bind_some]
  by_cases habove : row < offset
  · rw [if_pos habove, if_pos habove]
  · rw [if_neg habove, if_neg habove]
    by_cases hbelow : offset + visibleHeight height ≤ row
    · have hdifference : visibleHeight height ≤ row + 1 := by omega
      rw [if_pos hbelow, if_pos hbelow, if_pos hdifference]
    · rw [if_neg hbelow, if_neg hbelow]

/-! ## Highlighted rows -/

/-- When no span of an item has a background, the background of its row is that of the item. -/
theorem Item.background_of_mem_row
    {item : Item} (hspans : ∀ span ∈ item.spans, span.style.background? = none)
    {width : Nat} {look : Look} {cell : Cell} (hcell : cell ∈ item.row width look) :
    cell.look.background = (look.apply item.style).background := by
  rcases List.mem_append.mp hcell with hline | hblank
  · obtain ⟨span, hspan, hglyph⟩ := List.mem_flatMap.mp (List.mem_of_mem_take hline)
    obtain ⟨c, -, rfl⟩ := List.mem_map.mp hglyph
    change span.style.background?.getD (look.apply item.style).background = _
    rw [hspans span hspan, Option.getD_none]
  · rw [List.eq_of_mem_replicate hblank]

namespace CachesPane

variable (statistics : Statistics) (report : Report)

theorem getElem?_items_selected
    {ids : List CacheId} {selected : Nat} {id : CacheId} (hid : ids[selected]? = some id) :
    (items statistics report ids selected)[selected]? = some (item statistics report true id) := by
  rw [items, List.getElem?_mapIdx, hid, Option.map_some, decide_eq_true rfl]

/-- What the pane shows are rows of caches, of which one may be that of the selected cache. -/
theorem exists_of_getElem?_shown
    {height selected offset index : Nat} {ids : List CacheId} {row : Item}
    (hrow : (shown height statistics report ids selected offset)[index]? = some row) :
    ∃ id, row = item statistics report (offset + index = selected) id := by
  rw [shown, getElem?_window] at hrow
  split at hrow
  next =>
    rw [items, List.getElem?_mapIdx] at hrow
    obtain ⟨id, -, rfl⟩ := Option.map_eq_some_iff.mp hrow
    exact ⟨id, rfl⟩
  next => cases hrow

theorem background?_item (selected : Bool) (id : CacheId) :
    (item statistics report selected id).style.background? = some Theme.currentLine ↔
      selected = true := by
  cases selected <;> simp [item, Style.plain]

theorem background?_span (selected : Bool) (id : CacheId) :
    ∀ span ∈ (item statistics report selected id).spans, span.style.background? = none := by
  intro span hspan
  simp only [item, List.mem_cons, List.not_mem_nil, or_false] at hspan
  rcases hspan with rfl | rfl | rfl
  · rfl
  · rfl
  · cases report.cacheVerdict id <;> rfl

/-- The cells of a row have the background of the current line when the row is selected, and
only then. -/
theorem background_row_iff
    {selected : Bool} {id : CacheId} {width : Nat} {cell : Cell}
    (hcell : cell ∈ (item statistics report selected id).row width .blank) :
    cell.look.background = Theme.currentLine ↔ selected = true := by
  rw [Item.background_of_mem_row (background?_span statistics report selected id) hcell]
  cases selected with
  | true => exact iff_of_true rfl rfl
  | false => exact iff_of_false nofun nofun

end CachesPane

namespace Session

/-! ## What every event keeps -/

/-- The session is on this verification, and neither the selection nor the offset of the
list of caches is behind the last cache. -/
structure IsOn (session : Session) (verification : Verification) : Prop where
  verification_eq : session.verification = verification
  selected_le : session.selected ≤ session.lastIndex
  cachesOffset_le : session.cachesOffset ≤ session.lastIndex

theorem isOn_start (verification : Verification) : (start verification).IsOn verification :=
  ⟨rfl, Nat.zero_le _, Nat.zero_le _⟩

namespace IsOn

variable {session : Session} {verification : Verification}

theorem select (h : session.IsOn verification) {index : Nat} (hindex : index ≤ session.lastIndex) :
    (session.select index).IsOn verification := by
  constructor
  · rw [verification_select, h.verification_eq]
  · rw [selected_select, lastIndex_select]
    exact hindex
  · rw [cachesOffset_select, lastIndex_select]
    exact h.cachesOffset_le

theorem of_keepsList {next : Session} (h : session.IsOn verification)
    (hkeeps : session.KeepsList next) : next.IsOn verification := by
  have hlast : next.lastIndex = session.lastIndex := by
    rw [lastIndex, ids, hkeeps.verification_eq]
    rfl
  constructor
  · rw [hkeeps.verification_eq, h.verification_eq]
  · rw [hkeeps.selected_eq, hlast]
    exact h.selected_le
  · rw [hkeeps.cachesOffset_eq, hlast]
    exact h.cachesOffset_le

theorem of_keyStep {next : Session} (h : session.IsOn verification)
    (hstep : session.KeyStep next) : next.IsOn verification := by
  cases hstep with
  | select hindex =>
      exact h.select (Nat.le_trans hindex (Nat.max_le.mpr ⟨h.selected_le, Nat.le_refl _⟩))
  | keep hkeeps => exact h.of_keepsList hkeeps

theorem settle (h : session.IsOn verification) (size : Size) :
    (session.settle size).IsOn verification := by
  refine ⟨h.verification_eq, h.selected_le, ?_⟩
  change CachesPane.settle _ _ _ _ ≤ session.lastIndex
  unfold CachesPane.settle
  split
  · exact h.cachesOffset_le
  · refine Nat.le_trans (followOffset_le_max _ _ _) ?_
    exact Nat.max_le.mpr ⟨h.selected_le, h.cachesOffset_le⟩

theorem after (h : session.IsOn verification) (event : Event) :
    (session.after event).IsOn verification := by
  cases event with
  | key key => exact h.of_keyStep (session.keyStep_press key)
  | draw width height => exact h.settle _

theorem run (h : session.IsOn verification) (events : List Event) :
    (session.run events).IsOn verification := by
  refine run_induction (P := fun session => session.IsOn verification) ?_ h events
  exact fun _ event hsession => hsession.after event

theorem ids_eq (h : session.IsOn verification) : session.ids = verification.snapshot.ids := by
  rw [ids, h.verification_eq]

theorem selected_lt (h : session.IsOn verification) (hne : session.ids ≠ []) :
    session.selected < session.ids.length := by
  have hpos : 0 < session.ids.length := List.length_pos_iff.mpr hne
  have hle : session.selected ≤ session.ids.length - 1 := h.selected_le
  omega

theorem selected_eq_zero (h : session.IsOn verification) (hnil : session.ids = []) :
    session.selected = 0 := by
  have hle : session.selected ≤ session.ids.length - 1 := h.selected_le
  rw [hnil] at hle
  exact Nat.le_zero.mp hle

end IsOn

/-! ## What a drawing shows -/

theorem cachesOffset_settle {session : Session} (hne : session.ids ≠ []) (size : Size) :
    (session.settle size).cachesOffset =
      followOffset (mainHeight size.height) session.selected session.cachesOffset :=
  if_neg fun hlength => hne (List.length_eq_zero_iff.mp hlength)

/-- The rows of caches that are shown in a pane of this height. -/
def shownCaches (session : Session) (paneHeight : Nat) : List Item :=
  CachesPane.shown paneHeight session.verification.statistics session.verification.report
    session.ids session.selected session.cachesOffset

/-- In a pane of this height the row of the selected cache is among the shown ones.  It has the
background of the current line, in its style and in each of its cells, and no other row has. -/
structure ShowsSelection (session : Session) (paneHeight : Nat) : Prop where
  cachesOffset_le : session.cachesOffset ≤ session.selected
  selected_lt : session.selected < session.cachesOffset + visibleHeight paneHeight
  exists_row : ∃ id, session.cache? = some id ∧
    (session.shownCaches paneHeight)[session.selected - session.cachesOffset]? =
      some (CachesPane.item session.verification.statistics session.verification.report true id)
  highlighted_iff : ∀ index row, (session.shownCaches paneHeight)[index]? = some row →
    (row.style.background? = some Theme.currentLine ↔
      index = session.selected - session.cachesOffset) ∧
    ∀ width, ∀ cell ∈ row.row width .blank,
      (cell.look.background = Theme.currentLine ↔
        index = session.selected - session.cachesOffset)

namespace IsOn

variable {session : Session} {verification : Verification}

theorem showsSelection_settle
    (h : session.IsOn verification) (hne : session.ids ≠ []) (size : Size) :
    (session.settle size).ShowsSelection (mainHeight size.height) := by
  have hshows := followOffset_shows (mainHeight size.height) session.selected session.cachesOffset
  rw [← cachesOffset_settle hne] at hshows
  have hlt : session.selected < session.ids.length := h.selected_lt hne
  have hcache : session.cache? = some session.ids[session.selected] :=
    List.getElem?_eq_getElem hlt
  refine ⟨hshows.1, hshows.2, ⟨_, hcache, ?_⟩, fun index row hrow => ?_⟩
  · exact (getElem?_window_sub _ hshows.1 hshows.2).trans
      (CachesPane.getElem?_items_selected _ _ hcache)
  · obtain ⟨id, rfl⟩ := CachesPane.exists_of_getElem?_shown _ _ hrow
    have hindex : decide ((session.settle size).cachesOffset + index = session.selected) = true ↔
        index = session.selected - (session.settle size).cachesOffset := by
      rw [decide_eq_true_iff]
      omega
    refine ⟨(CachesPane.background?_item _ _ _ _).trans hindex, fun width cell hcell => ?_⟩
    exact (CachesPane.background_row_iff _ _ hcell).trans hindex

/-- The sums on the way to the settled offset fit into words of sixty-four bits, and its
difference is not negative. -/
theorem followOffset?_settle
    (h : session.IsOn verification) (hne : session.ids ≠ []) (size : Size)
    (hheight : size.height < UInt16.size) :
    followOffset? (mainHeight size.height) session.selected session.cachesOffset =
      some (session.settle size).cachesOffset := by
  have hcount : session.ids.length ≤ 2 ^ 32 := session.verification.snapshot.length_ids_le
  have hheight' : size.height < 2 ^ 16 := hheight
  have hvisible : visibleHeight (mainHeight size.height) ≤ 2 ^ 16 := by
    unfold visibleHeight mainHeight
    omega
  have hselected : session.selected ≤ session.ids.length - 1 := h.selected_le
  have hcachesOffset : session.cachesOffset ≤ session.ids.length - 1 := h.cachesOffset_le
  have hsize : UInt64.size = 2 ^ 64 := rfl
  rw [cachesOffset_settle hne]
  exact followOffset?_eq (by omega) (by omega)

end IsOn

/-- Whatever keys are pressed and whatever sizes the screen has, a session is on the
verification that it began with and has one of its caches selected, if there are any.  Each
drawing shows the row of the selected cache as the only one with a highlight, and no number on
the way to the offset leaves the words. -/
theorem run_start_shows_selection (verification : Verification) (events : List Event) :
    let session := (start verification).run events
    session.verification = verification ∧ session.ids = verification.snapshot.ids ∧
      (session.ids ≠ [] → ∃ h : session.selected < session.ids.length,
        session.cache? = some session.ids[session.selected]) ∧
      (session.ids = [] → session.selected = 0 ∧ session.cache? = none) ∧
      ∀ width height : UInt16, session.ids ≠ [] →
        let drawn := session.after (.draw width height)
        drawn.ShowsSelection (mainHeight height.toNat) ∧
          followOffset? (mainHeight height.toNat) session.selected session.cachesOffset =
            some drawn.cachesOffset := by
  intro session
  have hon : session.IsOn verification := (isOn_start verification).run events
  refine ⟨hon.verification_eq, hon.ids_eq, fun hne => ?_, fun hnil => ?_, ?_⟩
  · exact ⟨hon.selected_lt hne, List.getElem?_eq_getElem (hon.selected_lt hne)⟩
  · refine ⟨hon.selected_eq_zero hnil, ?_⟩
    rw [cache?, hnil]
    rfl
  · intro width height hne
    have hheight : height.toNat < UInt16.size := height.toNat_lt_size
    let size : Size := ⟨width.toNat, height.toNat⟩
    exact ⟨hon.showsSelection_settle hne size, hon.followOffset?_settle hne size hheight⟩

end Session

end Viewer

end CacheCoherence
