import CacheCoherence.Viewer.Panes
import CacheCoherence.Viewer.Session
import CacheCoherence.Viewer.Size
import CacheCoherence.Viewer.StatusBar

/-!
# The screen of a session

The list of caches stands at the left, the statistics and the results of the
selected cache stand at the right, one above the other, and the status bar takes
the last row.

A session is drawn in two steps.  The offsets are first settled for the sizes
that the panes have on the screen, and then the settled session is painted.
-/

namespace CacheCoherence.Viewer

/-! ## Layout -/

/-- The height of the panes above the status bar. -/
def mainHeight (height : Nat) : Nat :=
  height - 1

/-- The width of the list of caches, a little more than a third of the screen. -/
def listWidth (width : Nat) : Nat :=
  (35 * width + 50) / 100

def statisticsHeight (height : Nat) : Nat :=
  min 12 (mainHeight height)

def resultsHeight (height : Nat) : Nat :=
  mainHeight height - statisticsHeight height

/-! ## Drawing -/

namespace Session

/-- The session with the offsets settled for a screen of this size. -/
def settle (session : Session) (size : Size) : Session :=
  { session with
    cachesOffset :=
      CachesPane.settle (mainHeight size.height) session.ids.length session.selected
        session.cachesOffset
    statisticsOffset :=
      StatisticsPane.settle (statisticsHeight size.height) session.statistics?
        session.statisticsOffset
    resultsOffset :=
      ResultsPane.settle (resultsHeight size.height) session.verification.report session.cache?
        session.resultsOffset }

/-- The screen of a session with settled offsets. -/
def screen (session : Session) (size : Size) : Picture :=
  let verification := session.verification
  let left := listWidth size.width
  let right := size.width - left
  let list := CachesPane.picture left (mainHeight size.height) (session.focus = .caches)
    verification.statistics verification.report session.ids session.selected
    session.cachesOffset
  let statistics := StatisticsPane.picture right (statisticsHeight size.height)
    (session.focus = .statistics) session.statistics? session.statisticsOffset
  let results := ResultsPane.picture right (resultsHeight size.height)
    (session.focus = .results) verification.report session.cache? session.resultsOffset
  let status := StatusBar.picture size.width (size.height - mainHeight size.height)
    session.message session.selected session.ids.length verification.report.violations.length
  beside list (statistics ++ results) ++ status

end Session

end CacheCoherence.Viewer
