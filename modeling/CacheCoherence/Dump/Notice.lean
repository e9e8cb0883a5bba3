import CacheCoherence.Dump.State
import CacheCoherence.Log

/-!
# Notices of the reader

What the reader reports about its progress is kept apart from what it reads.
Sections are reported where they open and close; a cache that is listed again,
and a section that is open at the end of the input, are worth a warning.
-/

namespace CacheCoherence.Dump

/-- What the reader reports about its progress. -/
inductive Notice where
  | opened (line : Nat)
  | nestedOpening (line : Nat)
  | closed (line : Nat)
  | listedAgain (line : Nat) (cache : CacheId)
  | unclosed
  | finished (caches records : Nat)
  deriving DecidableEq, Repr

def Notice.entry (notice : Notice) : Log.Entry :=
  let entry (level : Log.Level) (message : String) (fields : List (String × String)) :=
    Log.Entry.mk level "cohcheck::parser::parse" message fields
  match notice with
  | opened line => entry .debug "cache-content section opened" [("line", line.repr)]
  | nestedOpening line => entry .debug "nested section marker ignored" [("line", line.repr)]
  | closed line => entry .debug "cache-content section closed" [("line", line.repr)]
  | listedAgain line cache =>
    entry .warn "cache listed again, earlier records dropped"
      [("line", line.repr), ("cache", cache.text)]
  | unclosed => entry .warn "cache-content section not closed before end of input" []
  | finished caches records =>
    entry .debug "parsed snapshot" [("caches", caches.repr), ("records", records.repr)]

namespace State

/-- What is reported when the line with this number has this kind. -/
def notice? (state : State) (line : Nat) (kind : LineKind) : Option Notice :=
  if state.place = .outside then
    if kind = .sectionOpen then some (.opened line) else none
  else
    match kind with
    | .sectionOpen => some (.nestedOpening line)
    | .sectionClose => some (.closed line)
    | .header id =>
      if id ∈ state.listings.map Cache.id then some (.listedAgain line id) else none
    | _ => none

/-- What is reported at the end of the input. -/
def finalNotices (state : State) : List Notice :=
  (if state.place = .outside then [] else [.unclosed]) ++
    [.finished state.snapshot.size state.snapshot.recordCount]

end State

end CacheCoherence.Dump
