import CacheCoherence.Viewer.Picture
import CacheCoherence.Viewer.Window
import CacheCoherence.Verification

/-!
# The panes of the viewer

Each pane shows a window of a list of rows: the caches with their verdicts, the
statistics of one cache, or the outcomes and violations of one cache.  A pane
settles the offset of its window before it is drawn.  The list of caches moves
just far enough for the selection to be inside the window; the other two panes
never move past their last row.

For each pane there are its rows and those of them in the window, the settled offset, and
its picture.
-/

namespace CacheCoherence.Viewer

/-- A text followed by blanks up to a width. -/
def padRight (width : Nat) (text : String) : String :=
  text ++ String.ofList (List.replicate (width - text.length) ' ')

/-- A text behind blanks up to a width. -/
def padLeft (width : Nat) (text : String) : String :=
  String.ofList (List.replicate (width - text.length) ' ') ++ text

/-! ## The list of caches -/

namespace CachesPane

def verdictStyle : Verdict → Style
  | .pass => .colour Theme.success
  | .skipped => .colour Theme.comment
  | .fail _ => (Style.colour Theme.error).inBold

def item (statistics : Statistics) (report : Report) (selected : Bool) (id : CacheId) : Item :=
  let records := ((statistics.get? id).map CacheStatistics.total).getD 0
  let verdict := report.cacheVerdict id
  { style := if selected then { background? := some Theme.currentLine } else .plain
    spans :=
      [⟨" Cache " ++ padRight 4 id.text, .colour Theme.text⟩,
        ⟨padLeft 6 records.repr ++ " lines ", .colour Theme.comment⟩,
        ⟨" " ++ verdict.label ++ " ", verdictStyle verdict⟩] }

def items (statistics : Statistics) (report : Report) (ids : List CacheId) (selected : Nat) :
    List Item :=
  ids.mapIdx fun index id => item statistics report (index = selected) id

/-- The rows in the window of a pane of this height. -/
def shown (height : Nat) (statistics : Statistics) (report : Report) (ids : List CacheId)
    (selected offset : Nat) : List Item :=
  window height offset (items statistics report ids selected)

/-- The settled offset, which has the selection inside the window.  Without caches
there is no selection, and the offset stays. -/
def settle (height cacheCount selected offset : Nat) : Nat :=
  if cacheCount = 0 then offset else followOffset height selected offset

def picture (width height : Nat) (focused : Bool) (statistics : Statistics) (report : Report)
    (ids : List CacheId) (selected offset : Nat) : Picture :=
  if ids = [] then
    let look := Look.blank.apply (.colour Theme.comment)
    framed " Caches " (Theme.borderStyle focused) look width height fun width height =>
      linePicture width height look [[⟨"(no caches in snapshot)", .plain⟩]]
  else
    let rows := shown height statistics report ids selected offset
    framed " Caches " (Theme.borderStyle focused) .blank width height fun width height =>
      itemPicture width height rows

end CachesPane

/-! ## The statistics of a cache -/

namespace StatisticsPane

def line (label : String) (value : Nat) : List Span :=
  [⟨label, .colour Theme.comment⟩, ⟨value.repr, .colour Theme.number⟩]

def stateLine (statistics : CacheStatistics) (state : LineState) : List Span :=
  ⟨" " ++ state.letter.toString ++ " ", (Style.colour (Theme.state state)).inBold⟩ ::
    line (padRight 13 state.name) (statistics.count state)

def lines (statistics : CacheStatistics) : List (List Span) :=
  (match statistics.lastUsed with
    | some range =>
      [line " Min last used  " range.least.toNat, line " Max last used  " range.greatest.toNat]
    | none => [[⟨" No data", .colour Theme.comment⟩]]) ++
    [[]] ++
    LineState.all.map (stateLine statistics) ++
    [[], line " Total          " statistics.total]

/-- The settled offset; without a cache it stays. -/
def settle (height : Nat) (statistics? : Option CacheStatistics) (offset : Nat) : Nat :=
  match statistics? with
  | some statistics => clampOffset height (lines statistics).length offset
  | none => offset

def picture (width height : Nat) (focused : Bool) (statistics? : Option CacheStatistics)
    (offset : Nat) : Picture :=
  match statistics? with
  | some statistics =>
    framed (" Statistics: Cache " ++ statistics.id.text ++ " ") (Theme.borderStyle focused)
      .blank width height fun width height =>
        linePicture width height .blank ((lines statistics).drop offset)
  | none =>
    let look := Look.blank.apply (.colour Theme.comment)
    framed " Statistics " (Theme.borderStyle focused) look width height fun width height =>
      linePicture width height look [[⟨"(no cache selected)", .plain⟩]]

end StatisticsPane

/-! ## The outcomes and violations of a cache -/

namespace ResultsPane

def verdictColour : Verdict → Colour
  | .pass => Theme.success
  | .fail _ => Theme.error
  | .skipped => Theme.comment

def outcomeItem (outcome : Outcome) : Item where
  style := .plain
  spans :=
    [⟨padRight 5 outcome.verdict.label, (Style.colour (verdictColour outcome.verdict)).inBold⟩,
      ⟨outcome.invariant.testName, .colour Theme.text⟩]

def violationItem (violation : Violation) : Item where
  style := .plain
  spans :=
    [⟨"[" ++ violation.invariant.testName ++ "] ", .colour Theme.comment⟩,
      ⟨violation.text, .colour Theme.error⟩]

/-- The rows on the violations in which a cache takes part. -/
def violationItems (violations : List Violation) : List Item :=
  if violations = [] then
    [.ofText "(no violations involve this cache)" (.colour Theme.comment)]
  else
    .ofText ("Violations (" ++ violations.length.repr ++ ")")
        (Style.colour Theme.secondary).inBold ::
      violations.map violationItem

def items (report : Report) (cache? : Option CacheId) : List Item :=
  match cache? with
  | some id =>
    (report.outcomesOf id).map outcomeItem ++ [.blank] ++
      violationItems (report.violationsInvolving id)
  | none => [.ofText "(no cache selected)" (.colour Theme.comment)]

/-- The rows in the window of a pane of this height. -/
def shown (height : Nat) (report : Report) (cache? : Option CacheId) (offset : Nat) :
    List Item :=
  window height offset (items report cache?)

/-- The settled offset. -/
def settle (height : Nat) (report : Report) (cache? : Option CacheId) (offset : Nat) : Nat :=
  clampOffset height (items report cache?).length offset

/-- The picture of the pane at a settled offset; its rows stand behind a blank column. -/
def picture (width height : Nat) (focused : Bool) (report : Report) (cache? : Option CacheId)
    (offset : Nat) : Picture :=
  let rows := shown height report cache? offset
  framed " Invariant Checks " (Theme.borderStyle focused) .blank width height
    fun width height =>
      (itemPicture (width - 1) height rows).map fun row =>
        fitRow width .blank (blanks 1 .blank ++ row)

end ResultsPane

end CacheCoherence.Viewer
