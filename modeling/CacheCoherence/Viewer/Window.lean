/-!
# Windows on lists of rows

A pane inside a border shows only as many rows as its height leaves room for.
The rows that it shows are a window: they begin at an offset, and there are as
many as fit.

There are two ways to settle an offset.  A window that is clamped shows no empty
row below the last one while rows above it are hidden.  A window that follows a
row moves just far enough to show it.
-/

namespace CacheCoherence.Viewer

/-- The number of rows that a window shows; a pane that is too low for its border
counts as showing one. -/
def visibleHeight (height : Nat) : Nat :=
  max (height - 2) 1

theorem visibleHeight_pos (height : Nat) : 0 < visibleHeight height := by
  unfold visibleHeight
  omega

/-- The rows in a window. -/
def window {α : Type} (height offset : Nat) (rows : List α) : List α :=
  (rows.drop offset).take (visibleHeight height)

/-- The offset that leaves no row of a window empty while rows above it are hidden. -/
def clampOffset (height rowCount offset : Nat) : Nat :=
  min offset (rowCount - visibleHeight height)

@[simp] theorem clampOffset_clampOffset (height rowCount offset : Nat) :
    clampOffset height rowCount (clampOffset height rowCount offset) =
      clampOffset height rowCount offset := by
  unfold clampOffset
  omega

/-- A clamped window shows as many rows as fit, or all that there are. -/
theorem length_window_clampOffset {α : Type} (height offset : Nat) (rows : List α) :
    (window height (clampOffset height rows.length offset) rows).length =
      min rows.length (visibleHeight height) := by
  simp only [window, clampOffset, List.length_take, List.length_drop]
  omega

/-- The offset next to the present one at which a window shows a row. -/
def followOffset (height row offset : Nat) : Nat :=
  if row < offset then row
  else if offset + visibleHeight height ≤ row then row + 1 - visibleHeight height
  else offset

/-- A window that follows a row shows it. -/
theorem followOffset_shows (height row offset : Nat) :
    followOffset height row offset ≤ row ∧
      row < followOffset height row offset + visibleHeight height := by
  have := visibleHeight_pos height
  unfold followOffset
  split
  · omega
  · split <;> omega

end CacheCoherence.Viewer
