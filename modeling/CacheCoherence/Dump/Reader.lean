import CacheCoherence.Dump.Notice

/-!
# Reading dumps

A dump is read line by line.  The first line that does not fit ends the reading,
and nothing is returned of what was read before it.  The run over several lines
adds to the steps where a line stands and what it holds.
-/

namespace CacheCoherence.Dump

open Text

namespace State

/-- Reads lines, the first of which has the number `first`. -/
def run (state : State) (first : Nat) : List Text → Except ReadError State
  | [] => .ok state
  | line :: rest =>
    match state.step (LineKind.of line) with
    | .ok next => next.run (first + 1) rest
    | .error cause => .error (ReadError.at first line cause)

/-- What is reported while lines are read, up to the first that does not fit. -/
def notices (state : State) (first : Nat) : List Text → List Notice
  | [] => state.finalNotices
  | line :: rest =>
    (state.notice? first (LineKind.of line)).toList ++
      match state.step (LineKind.of line) with
      | .ok next => next.notices (first + 1) rest
      | .error _ => []

end State

def readLines (lines : List Text) : Except ReadError Snapshot :=
  (State.initial.run 1 lines).map State.snapshot

def read (text : String) : Except ReadError Snapshot :=
  readLines (lines text.toList)

def lineNotices (lines : List Text) : List Notice :=
  State.initial.notices 1 lines

def notices (text : String) : List Notice :=
  lineNotices (lines text.toList)

end CacheCoherence.Dump
