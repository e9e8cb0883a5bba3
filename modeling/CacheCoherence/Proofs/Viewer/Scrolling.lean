import CacheCoherence.Proofs.Viewer.Paging

/-!
# Scrolling through the rows of a pane

Keys raise the offset of the results or of the statistics without a look at the rows, and a
drawing cuts it back to the last window that has no empty row.  Behind each drawing some
rows are in the window, and arrow keys take the window up and down to all others.

The rows of the results are as many as the report asks for, which is no bound on the offset;
those of the statistics are at most nine, so that a small word holds their offset.
-/

namespace CacheCoherence.Viewer

/-! ## Rows -/

namespace ResultsPane

/-- There is a row for each outcome and each violation, and there are two more. -/
theorem length_items_some (report : Report) (id : CacheId) :
    (items report (some id)).length =
      (report.outcomesOf id).length + 2 + (report.violationsInvolving id).length := by
  have hviolations : (violationItems (report.violationsInvolving id)).length =
      1 + (report.violationsInvolving id).length := by
    unfold violationItems
    split
    next hnone => rw [hnone]; rfl
    next => rw [List.length_cons, List.length_map, Nat.add_comm]
  rw [items, List.length_append, List.length_append, List.length_map, hviolations,
    List.length_singleton]
  omega

theorem items_ne_nil (report : Report) (cache? : Option CacheId) : items report cache? ≠ [] := by
  cases cache? with
  | none => exact List.cons_ne_nil _ _
  | some id =>
      rw [← List.length_pos_iff, length_items_some]
      omega

end ResultsPane

theorem StatisticsPane.length_lines_le (statistics : CacheStatistics) :
    (lines statistics).length ≤ 9 := by
  unfold lines
  cases statistics.lastUsed with
  | none => exact Nat.le_succ 8
  | some range => exact Nat.le_refl 9

/-- The offset of the statistics of a cache fits into a word of sixteen bits. -/
theorem StatisticsPane.settle_lt (height : Nat) (statistics : CacheStatistics) (offset : Nat) :
    settle height (some statistics) offset < UInt16.size :=
  calc
    settle height (some statistics) offset ≤ (lines statistics).length - visibleHeight height :=
      Nat.min_le_right _ _
    _ ≤ (lines statistics).length := Nat.sub_le _ _
    _ ≤ 9 := length_lines_le statistics
    _ < UInt16.size := by decide

/-! ## Clamped windows -/

/-- The offset of the last window of a pane that has no empty row. -/
def lastOffset (height rowCount : Nat) : Int :=
  max (rowCount - max ((height : Int) - 2) 1) 0

theorem lastOffset_eq (height rowCount : Nat) :
    lastOffset height rowCount = (rowCount - visibleHeight height : Nat) := by
  unfold lastOffset visibleHeight
  omega

theorem clampOffset_eq_min (height rowCount offset : Nat) :
    (clampOffset height rowCount offset : Int) =
      min (offset : Int) (lastOffset height rowCount) := by
  rw [lastOffset_eq, clampOffset]
  omega

section Window

variable {α : Type} (height offset : Nat) (rows : List α)

/-- The rows in a window are those from its offset up to its end. -/
theorem window_eq_drop_take :
    window height offset rows =
      (rows.take (min (offset + visibleHeight height) rows.length)).drop offset := by
  rw [List.drop_take, window, List.take_eq_take_iff, List.length_drop]
  omega

theorem window_clampOffset_ne_nil (hrows : rows ≠ []) :
    window height (clampOffset height rows.length offset) rows ≠ [] := by
  have hvisible : 0 < visibleHeight height := visibleHeight_pos height
  have hcount : 0 < rows.length := List.length_pos_iff.mpr hrows
  rw [← List.length_pos_iff, length_window_clampOffset]
  omega

end Window

namespace Session

/-! ## Panes with rows to scroll through -/

/-- The number of rows that a pane has to show. -/
def rowCount (session : Session) : Pane → Nat
  | .caches => session.ids.length
  | .statistics =>
    session.statistics?.elim 0 fun statistics => (StatisticsPane.lines statistics).length
  | .results => (ResultsPane.items session.verification.report session.cache?).length

/-- The pane has rows to scroll through, and an offset can count them: the results, or the
statistics of a cache. -/
inductive HasRows (session : Session) : Pane → Prop
  | statistics (hsome : session.statistics? ≠ none) : session.HasRows .statistics
  | results (hcount : session.rowCount .results ≤ maxOffset) : session.HasRows .results

namespace HasRows

variable {session : Session} {pane : Pane}

theorem ne_caches (h : session.HasRows pane) : pane ≠ .caches := by
  cases h with
  | statistics => nofun
  | results => nofun

theorem rowCount_le (h : session.HasRows pane) : session.rowCount pane ≤ maxOffset := by
  cases h with
  | statistics hsome =>
      obtain ⟨statistics, hstatistics⟩ := Option.ne_none_iff_exists'.mp hsome
      rw [rowCount, hstatistics]
      exact Nat.le_trans (StatisticsPane.length_lines_le statistics) (by decide)
  | results hcount => exact hcount

theorem settledOffset_eq_clampOffset (h : session.HasRows pane) (size : Size) (offset : Nat) :
    session.settledOffset size pane offset =
      clampOffset (pane.height size.height) (session.rowCount pane) offset := by
  cases h with
  | statistics hsome =>
      obtain ⟨statistics, hstatistics⟩ := Option.ne_none_iff_exists'.mp hsome
      rw [settledOffset, rowCount, hstatistics]
      rfl
  | results => rfl

end HasRows

/-! ## Arrow keys with a drawing behind each -/

section Drawn

variable {session : Session} {width height : UInt16}
  (hdrawn : session.after (.draw width height) = session) (hrows : session.HasRows session.focus)
include hdrawn hrows

theorem clampOffset_offset :
    clampOffset (session.focus.height height.toNat) (session.rowCount session.focus)
        (session.offset session.focus) = session.offset session.focus := by
  have hsettled := settledOffset_offset hdrawn session.focus
  rwa [hrows.settledOffset_eq_clampOffset] at hsettled

theorem offset_draw_withOffset (offset : Nat) :
    ((session.withOffset session.focus offset).after (.draw width height)).offset session.focus =
      clampOffset (session.focus.height height.toNat) (session.rowCount session.focus) offset := by
  rw [after, settle_withOffset hdrawn, offset_withOffset, hrows.settledOffset_eq_clampOffset]

/-- The offset gets as far down as there are steps, or to the last window. -/
theorem offset_run_presses_down (count : Nat) :
    ((session.run (presses .down width height count)).offset session.focus : Int) =
      min ((session.offset session.focus : Int) + count)
        (lastOffset (session.focus.height height.toNat) (session.rowCount session.focus)) := by
  have hoffset := clampOffset_offset hdrawn hrows
  have hcount := hrows.rowCount_le
  rw [lastOffset_eq]
  cases count with
  | zero =>
      change (session.offset session.focus : Int) = _
      rw [clampOffset] at hoffset
      omega
  | succ count =>
      rw [run_presses_down hdrawn, moveDown_eq_withOffset rfl hrows.ne_caches,
        offset_draw_withOffset hdrawn hrows, clampOffset]
      -- The offset is counted by a word, but it is cut back before the greatest word is reached.
      omega

/-- The offset gets as far up as there are steps, or to the first window. -/
theorem offset_run_presses_up (count : Nat) :
    ((session.run (presses .up width height count)).offset session.focus : Int) =
      max ((session.offset session.focus : Int) - count) 0 := by
  have hoffset := clampOffset_offset hdrawn hrows
  rw [clampOffset] at hoffset
  cases count with
  | zero =>
      change (session.offset session.focus : Int) = _
      omega
  | succ count =>
      rw [run_presses_up hdrawn, moveUp_eq_withOffset rfl hrows.ne_caches,
        offset_draw_withOffset hdrawn hrows, clampOffset]
      omega

/-- Each row is in the window behind some steps up or down. -/
theorem exists_presses_show {row : Nat} (hrow : row < session.rowCount session.focus) :
    ∃ key ∈ [Key.up, Key.down], ∃ count,
      let shown := session.run (presses key width height count)
      shown.offset session.focus ≤ row ∧
        row < shown.offset session.focus + visibleHeight (session.focus.height height.toNat) := by
  have hpos := visibleHeight_pos (session.focus.height height.toNat)
  rcases Nat.lt_or_ge row (session.offset session.focus) with habove | hbelow
  · let count := session.offset session.focus - row
    have hup := offset_run_presses_up hdrawn hrows count
    refine ⟨.up, by decide, count, ?_⟩
    dsimp only
    omega
  · let count := row - session.offset session.focus
    have hdown := offset_run_presses_down hdrawn hrows count
    rw [lastOffset_eq] at hdown
    refine ⟨.down, by decide, count, ?_⟩
    dsimp only
    omega

end Drawn

/-- A drawing settles the offset of the results, and that of the statistics of a cache, on the
last full window of their rows or above it, and a second one leaves it there.  The window on
the results is never empty, and a small word holds the offset of the statistics.  From there
on arrow keys with a drawing behind each go through all rows, one by one. -/
theorem drawing_settles_offsets_on_rows
    (report : Report) (cache? : Option CacheId) (statistics : CacheStatistics)
    (height offset : Nat) :
    (let rows := ResultsPane.items report cache?
      let settled := ResultsPane.settle height report cache? offset
      (settled : Int) = min (offset : Int) (lastOffset height rows.length) ∧
        ResultsPane.settle height report cache? settled = settled ∧
        ResultsPane.shown height report cache? settled =
          (rows.take (min (settled + visibleHeight height) rows.length)).drop settled ∧
        ResultsPane.shown height report cache? settled ≠ []) ∧
      (let rows := StatisticsPane.lines statistics
        let settled := StatisticsPane.settle height (some statistics) offset
        (settled : Int) = min (offset : Int) (lastOffset height rows.length) ∧
          StatisticsPane.settle height (some statistics) settled = settled ∧
          settled.toUInt16.toNat = settled) ∧
      ∀ (session : Session) (width height : UInt16),
        let drawn := session.after (.draw width height)
        let pane := drawn.focus
        let paneHeight := pane.height height.toNat
        drawn.HasRows pane →
          (∀ count, ((drawn.run (presses .down width height count)).offset pane : Int) =
            min ((drawn.offset pane : Int) + count)
              (lastOffset paneHeight (drawn.rowCount pane))) ∧
          (∀ count, ((drawn.run (presses .up width height count)).offset pane : Int) =
            max ((drawn.offset pane : Int) - count) 0) ∧
          ∀ row < drawn.rowCount pane, ∃ key ∈ [Key.up, Key.down], ∃ count,
            let shown := drawn.run (presses key width height count)
            shown.offset pane ≤ row ∧ row < shown.offset pane + visibleHeight paneHeight := by
  refine ⟨⟨?_, ?_, ?_, ?_⟩, ⟨?_, ?_, ?_⟩, ?_⟩
  · exact clampOffset_eq_min _ _ _
  · exact clampOffset_clampOffset _ _ _
  · exact window_eq_drop_take _ _ _
  · exact window_clampOffset_ne_nil _ _ _ (ResultsPane.items_ne_nil report cache?)
  · exact clampOffset_eq_min _ _ _
  · exact clampOffset_clampOffset _ _ _
  · exact UInt16.toNat_ofNat_of_lt' (StatisticsPane.settle_lt height statistics offset)
  · intro session width height drawn pane paneHeight hrows
    have hdrawn : drawn.after (.draw width height) = drawn := settle_settle session _
    exact ⟨offset_run_presses_down hdrawn hrows, offset_run_presses_up hdrawn hrows,
      fun _ => exists_presses_show hdrawn hrows⟩

/-- Two owners of an address, each with three outcomes and two violations, in a window of two
rows. -/
theorem drawing_settles_offsets_on_rows_of_two_owners :
    let owned : List Record := [⟨0, 1, 1, .modified⟩]
    let caches : Snapshot := ⟨[⟨⟨0⟩, owned⟩, ⟨⟨1⟩, owned⟩], by decide⟩
    let verification := Verification.ofSnapshot "dump.out" .mesi .exhaustive caches
    let session := { start verification with focus := .results }
    let drawn := session.after (.draw 80 17)
    drawn.HasRows .results ∧ drawn.rowCount .results = 7 ∧
      (drawn.run (presses .down 80 17 9)).offset .results = 5 ∧
      ∃ key ∈ [Key.up, Key.down], ∃ count,
        let shown := drawn.run (presses key 80 17 count)
        shown.offset .results ≤ 6 ∧ 6 < shown.offset .results + visibleHeight 4 := by
  intro owned caches verification session drawn
  have hcount : drawn.rowCount .results = 7 := by decide +kernel
  have hfew : drawn.rowCount .results ≤ maxOffset := by
    rw [hcount]
    decide
  have hrows : drawn.HasRows .results := .results hfew
  have hscroll := (drawing_settles_offsets_on_rows verification.report drawn.cache?
    (Cache.statistics ⟨⟨0⟩, owned⟩) 4 0).2.2 session 80 17 hrows
  have hdown : ((drawn.run (presses .down 80 17 9)).offset .results : Int) =
      min ((drawn.offset .results : Int) + (9 : Nat)) (lastOffset 4 (drawn.rowCount .results)) :=
    hscroll.1 9
  have hlastRow : 6 < drawn.rowCount .results := by
    rw [hcount]
    decide
  have hbegin : drawn.offset .results = 0 := rfl
  have hlast : lastOffset 4 7 = 5 := by decide
  rw [hbegin, hcount, hlast] at hdown
  refine ⟨hrows, hcount, ?_, hscroll.2.2 6 hlastRow⟩
  omega

end Session

end CacheCoherence.Viewer
