import CacheCoherence.Verification

/-!
# Viewer sessions

A session is a verification together with what the user has done to the view of
it: the selected cache, the pane with the focus, the offset of each pane, and
the message in the status bar.

Two things change a session.  A key moves the focus, the selection or an offset;
when it moves the selection, the other panes go back to their first row and the
message tells the verdict on the new cache.  Drawing settles the offsets for the
present size of the screen.  Keys raise offsets without a look at what there is
to show, and only drawing brings them back into range.
-/

namespace CacheCoherence.Viewer

/-- The panes that can have the focus. -/
inductive Pane where
  | caches
  | statistics
  | results
  deriving DecidableEq, Repr

namespace Pane

/-- The pane that the focus goes to forwards. -/
def next : Pane → Pane
  | caches => statistics
  | statistics => results
  | results => caches

/-- The pane that the focus goes to backwards. -/
def previous : Pane → Pane
  | caches => results
  | statistics => caches
  | results => statistics

end Pane

inductive Key where
  | up
  | down
  | pageUp
  | pageDown
  | home
  | endKey
  | tab
  | backTab
  | escape
  | character (c : Char)
  | other
  deriving DecidableEq, Repr

/-- The number of rows that a page key moves by. -/
def pageRows : Nat := 10

/-- The greatest offset; a pane that is moved further stays there. -/
def maxOffset : Nat := UInt64.size - 1

structure Session where
  verification : Verification
  selected : Nat
  focus : Pane
  cachesOffset : Nat
  statisticsOffset : Nat
  resultsOffset : Nat
  quit : Bool
  message : String
  deriving DecidableEq

namespace Session

/-- The session that begins with a verification. -/
def start (verification : Verification) : Session where
  verification
  selected := 0
  focus := .caches
  cachesOffset := 0
  statisticsOffset := 0
  resultsOffset := 0
  quit := false
  message := "Verified " ++ verification.source

/-- The caches that can be selected. -/
def ids (session : Session) : List CacheId :=
  session.verification.snapshot.ids

def cache? (session : Session) : Option CacheId :=
  session.ids[session.selected]?

/-! ## Keys -/

def verdictMessage (report : Report) (id : CacheId) : String :=
  match report.cacheVerdict id with
  | .pass => "Cache " ++ id.text ++ " passed"
  | .fail violations => "Cache " ++ id.text ++ " has " ++ violations.repr ++ " violation(s)"
  | .skipped => "Cache " ++ id.text ++ " not checked (stopped at first)"

def select (session : Session) (index : Nat) : Session :=
  if index = session.selected then
    session
  else
    let moved := { session with selected := index, statisticsOffset := 0, resultsOffset := 0 }
    match moved.cache? with
    | some id => { moved with message := verdictMessage moved.verification.report id }
    | none => moved

def lastIndex (session : Session) : Nat :=
  session.ids.length - 1

/-- Moves up by some rows in the pane with the focus. -/
def moveUp (session : Session) (rows : Nat) : Session :=
  match session.focus with
  | .caches => session.select (session.selected - rows)
  | .statistics => { session with statisticsOffset := session.statisticsOffset - rows }
  | .results => { session with resultsOffset := session.resultsOffset - rows }

/-- Moves down by some rows in the pane with the focus. -/
def moveDown (session : Session) (rows : Nat) : Session :=
  match session.focus with
  | .caches => session.select (min (session.selected + rows) session.lastIndex)
  | .statistics =>
    { session with statisticsOffset := min (session.statisticsOffset + rows) maxOffset }
  | .results => { session with resultsOffset := min (session.resultsOffset + rows) maxOffset }

def press (session : Session) : Key → Session
  | .up => session.moveUp 1
  | .down => session.moveDown 1
  | .pageUp => session.moveUp pageRows
  | .pageDown => session.moveDown pageRows
  | .home => session.select 0
  | .endKey => session.select session.lastIndex
  | .tab => { session with focus := session.focus.next }
  | .backTab => { session with focus := session.focus.previous }
  | .escape => { session with quit := true }
  | .character c => if c = 'q' ∨ c = 'Q' then { session with quit := true } else session
  | .other => session

def statistics? (session : Session) : Option CacheStatistics :=
  session.cache?.bind session.verification.statistics.get?

end Session

end CacheCoherence.Viewer
