/-!
# Sizes of screens

A screen has at most 65535 cells.  A terminal with more cells is used in part:
both sides are reduced so that they keep their proportion, in floating-point
arithmetic, and rounded down to whole cells.
-/

namespace CacheCoherence.Viewer

structure Size where
  width : Nat
  height : Nat
  deriving DecidableEq, Repr

namespace Size

/-- The greatest number of cells of a screen. -/
def maxCells : Nat := 65535

/-- The size of the screen on a terminal with these sides. -/
def ofTerminal (width height : Nat) : Size :=
  if width * height ≤ maxCells then
    ⟨width, height⟩
  else
    let proportion := width.toFloat / height.toFloat
    let reduced := (maxCells.toFloat / proportion).sqrt
    ⟨(reduced * proportion).toUInt16.toNat, reduced.toUInt16.toNat⟩

example : ofTerminal 300 300 = ⟨255, 255⟩ := by decide +kernel

example : ofTerminal 65535 20 = ⟨14654, 4⟩ := by decide +kernel

end Size

end CacheCoherence.Viewer
