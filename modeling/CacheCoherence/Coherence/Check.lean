import CacheCoherence.Coherence.Evaluation
import CacheCoherence.Log

/-!
# Checking a snapshot

Each cache of a snapshot is checked against each rule of a table, the caches in
the order of the snapshot and the rules in the order of the table.  The report
and the notices of a check come from the same run.
-/

namespace CacheCoherence

/-- The run of a check: all its tasks, with what is kept of each. -/
def Snapshot.evaluations (snapshot : Snapshot) (rules : List Rule) (mode : Mode) :
    List Evaluation :=
  mode.evaluate (Task.findings snapshot) (snapshot.tasks rules)

def Snapshot.check (snapshot : Snapshot) (rules : List Rule) (mode : Mode) : Report :=
  let evaluations := snapshot.evaluations rules mode
  { mode
    violations := evaluations.flatMap Evaluation.violations
    outcomes := evaluations.map Evaluation.outcome }

/-- What a check reports about its progress. -/
inductive CheckNotice where
  | evaluated (cache : CacheId) (invariant : Invariant) (violations : Nat)
  | finished (caches violations : Nat)
  deriving DecidableEq, Repr

def CheckNotice.entry (notice : CheckNotice) : Log.Entry :=
  let entry (level : Log.Level) (message : String) (fields : List (String × String)) :=
    Log.Entry.mk level "cohcheck::checker::engine" message fields
  match notice with
  | evaluated cache invariant violations =>
    entry .debug "rule evaluated"
      [("cache", cache.text), ("invariant", invariant.testName), ("violations", violations.repr)]
  | finished caches violations =>
    entry .info "coherence check finished"
      [("caches", caches.repr), ("violations", violations.repr)]

/-- The notice of an evaluation; a skipped task gives none. -/
def Evaluation.notice? (evaluation : Evaluation) : Option CheckNotice :=
  evaluation.kept?.map fun kept =>
    .evaluated evaluation.task.cache.id evaluation.task.rule.invariant kept.length

def Snapshot.checkNotices (snapshot : Snapshot) (rules : List Rule) (mode : Mode) :
    List CheckNotice :=
  let evaluations := snapshot.evaluations rules mode
  evaluations.filterMap Evaluation.notice? ++
    [.finished snapshot.size (evaluations.flatMap Evaluation.violations).length]

end CacheCoherence
