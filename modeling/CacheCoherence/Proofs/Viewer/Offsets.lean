import CacheCoherence.Proofs.Viewer.Run

/-!
# Offsets of drawn sessions

Each pane has an offset, and a drawing settles the offset of each pane by a rule of its own,
which depends on the verification and on the selection but not on the offsets of the other
panes.  In a session that has just been drawn all offsets are settled, so that a second
drawing changes nothing, and a change of one offset is all that the next drawing looks at.

The panes that show the statistics and the results raise and lower their offsets without a
look at their rows.  Since a drawing cuts off what is too much, two such moves with a drawing
in between come to the same as one move.
-/

namespace CacheCoherence.Viewer

/-! ## Clamped offsets -/

/-- An offset that is raised twice can be clamped in between. -/
theorem clampOffset_raise (height rowCount offset rows more : Nat) :
    clampOffset height rowCount
        (min (clampOffset height rowCount (min (offset + rows) maxOffset) + more) maxOffset) =
      clampOffset height rowCount (min (offset + (rows + more)) maxOffset) := by
  unfold clampOffset
  omega

/-- A clamped offset that is lowered twice can be clamped in between. -/
theorem clampOffset_lower
    {height rowCount offset : Nat} (hoffset : clampOffset height rowCount offset = offset)
    (rows more : Nat) :
    clampOffset height rowCount (clampOffset height rowCount (offset - rows) - more) =
      clampOffset height rowCount (offset - (rows + more)) := by
  unfold clampOffset at *
  omega

theorem CachesPane.settle_settle (height cacheCount selected offset : Nat) :
    settle height cacheCount selected (settle height cacheCount selected offset) =
      settle height cacheCount selected offset := by
  unfold settle
  split
  · rfl
  · have hshown := followOffset_shows height selected offset
    generalize followOffset height selected offset = settled at *
    rw [followOffset, if_neg (Nat.not_lt.mpr hshown.1), if_neg (Nat.not_le.mpr hshown.2)]

/-- The height of a pane on a screen of this height. -/
def Pane.height (screenHeight : Nat) : Pane → Nat
  | caches => mainHeight screenHeight
  | statistics => statisticsHeight screenHeight
  | results => resultsHeight screenHeight

namespace Session

/-! ## The offset of a pane -/

def offset (session : Session) : Pane → Nat
  | .caches => session.cachesOffset
  | .statistics => session.statisticsOffset
  | .results => session.resultsOffset

def withOffset (session : Session) (pane : Pane) (offset : Nat) : Session :=
  match pane with
  | .caches => { session with cachesOffset := offset }
  | .statistics => { session with statisticsOffset := offset }
  | .results => { session with resultsOffset := offset }

/-- What a drawing on a screen of this size makes of an offset of a pane. -/
def settledOffset (session : Session) (size : Size) (pane : Pane) (offset : Nat) : Nat :=
  let height := pane.height size.height
  match pane with
  | .caches => CachesPane.settle height session.ids.length session.selected offset
  | .statistics => StatisticsPane.settle height session.statistics? offset
  | .results => ResultsPane.settle height session.verification.report session.cache? offset

variable (session : Session) (size : Size) (pane : Pane)

@[simp] theorem offset_withOffset (offset : Nat) :
    (session.withOffset pane offset).offset pane = offset := by
  cases pane <;> rfl

@[simp] theorem focus_withOffset (offset : Nat) :
    (session.withOffset pane offset).focus = session.focus := by
  cases pane <;> rfl

@[simp] theorem withOffset_withOffset (offset other : Nat) :
    (session.withOffset pane offset).withOffset pane other = session.withOffset pane other := by
  cases pane <;> rfl

theorem offset_settle :
    (session.settle size).offset pane = session.settledOffset size pane (session.offset pane) := by
  cases pane <;> rfl

theorem settledOffset_settledOffset (offset : Nat) :
    session.settledOffset size pane (session.settledOffset size pane offset) =
      session.settledOffset size pane offset := by
  cases pane with
  | caches => exact CachesPane.settle_settle _ _ _ _
  | statistics =>
      unfold settledOffset StatisticsPane.settle
      cases session.statistics? with
      | none => rfl
      | some statistics => exact clampOffset_clampOffset _ _ _
  | results => exact clampOffset_clampOffset _ _ _

theorem settle_settle : (session.settle size).settle size = session.settle size := by
  have hcaches := session.settledOffset_settledOffset size .caches session.cachesOffset
  have hstatistics := session.settledOffset_settledOffset size .statistics session.statisticsOffset
  have hresults := session.settledOffset_settledOffset size .results session.resultsOffset
  simp only [settle, Session.mk.injEq, true_and, and_true]
  exact ⟨hcaches, hstatistics, hresults⟩

section Drawn

variable {session : Session} {size : Size} (hdrawn : session.settle size = session)
include hdrawn

theorem settledOffset_offset (pane : Pane) :
    session.settledOffset size pane (session.offset pane) = session.offset pane := by
  rw [← offset_settle, hdrawn]

/-- When one offset of a drawn session is changed, the next drawing settles this one. -/
theorem settle_withOffset (pane : Pane) (offset : Nat) :
    (session.withOffset pane offset).settle size =
      session.withOffset pane (session.settledOffset size pane offset) := by
  have hcaches := settledOffset_offset hdrawn .caches
  have hstatistics := settledOffset_offset hdrawn .statistics
  have hresults := settledOffset_offset hdrawn .results
  cases pane with
  | caches =>
      simp only [withOffset, settle, Session.mk.injEq, true_and, and_true]
      exact ⟨rfl, hstatistics, hresults⟩
  | statistics =>
      simp only [withOffset, settle, Session.mk.injEq, true_and, and_true]
      exact ⟨hcaches, rfl, hresults⟩
  | results =>
      simp only [withOffset, settle, Session.mk.injEq, true_and, and_true]
      exact ⟨hcaches, hstatistics, rfl⟩

end Drawn

/-! ## Panes that are moved without a look at their rows -/

section Moved

variable {session : Session} {pane : Pane}

theorem moveDown_eq_withOffset
    (hfocus : session.focus = pane) (hpane : pane ≠ .caches) (rows : Nat) :
    session.moveDown rows =
      session.withOffset pane (min (session.offset pane + rows) maxOffset) := by
  unfold moveDown
  split
  next hcaches => exact absurd (hfocus.symm.trans hcaches) hpane
  next hstatistics =>
    obtain rfl : pane = .statistics := hfocus.symm.trans hstatistics
    rfl
  next hresults =>
    obtain rfl : pane = .results := hfocus.symm.trans hresults
    rfl

theorem moveUp_eq_withOffset
    (hfocus : session.focus = pane) (hpane : pane ≠ .caches) (rows : Nat) :
    session.moveUp rows = session.withOffset pane (session.offset pane - rows) := by
  unfold moveUp
  split
  next hcaches => exact absurd (hfocus.symm.trans hcaches) hpane
  next hstatistics =>
    obtain rfl : pane = .statistics := hfocus.symm.trans hstatistics
    rfl
  next hresults =>
    obtain rfl : pane = .results := hfocus.symm.trans hresults
    rfl

theorem settledOffset_raise (hpane : pane ≠ .caches) (size : Size) (offset rows more : Nat) :
    session.settledOffset size pane
        (min (session.settledOffset size pane (min (offset + rows) maxOffset) + more) maxOffset) =
      session.settledOffset size pane (min (offset + (rows + more)) maxOffset) := by
  cases pane with
  | caches => exact absurd rfl hpane
  | statistics =>
      unfold settledOffset StatisticsPane.settle
      cases session.statistics? with
      | none =>
          dsimp only
          omega
      | some statistics => exact clampOffset_raise _ _ _ _ _
  | results => exact clampOffset_raise _ _ _ _ _

theorem settledOffset_lower
    (hpane : pane ≠ .caches) {size : Size} {offset : Nat}
    (hoffset : session.settledOffset size pane offset = offset) (rows more : Nat) :
    session.settledOffset size pane (session.settledOffset size pane (offset - rows) - more) =
      session.settledOffset size pane (offset - (rows + more)) := by
  cases pane with
  | caches => exact absurd rfl hpane
  | statistics =>
      unfold settledOffset StatisticsPane.settle at *
      cases hstatistics : session.statistics? with
      | none => exact Nat.sub_sub _ _ _
      | some statistics =>
          rw [hstatistics] at hoffset
          exact clampOffset_lower hoffset _ _
  | results => exact clampOffset_lower hoffset _ _

end Moved

end Session

end CacheCoherence.Viewer
