import CacheCoherence.Coherence.Violation

/-!
# Check reports

A report lists the violations in the order of their discovery and one outcome
for each cache and invariant.  Reports are plain data: whether outcomes and
violations agree is a property of the run that produced them.
-/

namespace CacheCoherence

/-- How much is evaluated once a violation is found. -/
inductive Mode where
  | exhaustive
  | failFast
  deriving DecidableEq, Repr

def Mode.name : Mode → String
  | exhaustive => "exhaustive"
  | failFast => "fail_fast"

/-- What became of one invariant, or of all invariants of a cache. -/
inductive Verdict where
  | pass
  | fail (violations : Nat)
  | skipped
  deriving DecidableEq, Repr

namespace Verdict

def label : Verdict → String
  | pass => "PASS"
  | fail _ => "FAIL"
  | skipped => "SKIP"

/-- The number of violations that a verdict counts. -/
def violations : Verdict → Nat
  | fail violations => violations
  | _ => 0

end Verdict

/-- The verdict of one invariant with one cache as the subject. -/
structure Outcome where
  cache : CacheId
  invariant : Invariant
  verdict : Verdict
  deriving DecidableEq, Repr

structure Report where
  mode : Mode
  violations : List Violation
  outcomes : List Outcome
  deriving DecidableEq, Repr

namespace Report

def isClean (report : Report) : Bool :=
  report.violations.isEmpty

/-- The violations with this cache as the subject. -/
def violationsOf (report : Report) (id : CacheId) : List Violation :=
  report.violations.filter fun violation => violation.cache = id

/-- The violations of one invariant with this cache as the subject. -/
def violationsUnder (report : Report) (id : CacheId) (invariant : Invariant) : List Violation :=
  (report.violationsOf id).filter fun violation => violation.invariant = invariant

def violationsInvolving (report : Report) (id : CacheId) : List Violation :=
  report.violations.filter fun violation => violation.involves id

def outcomesOf (report : Report) (id : CacheId) : List Outcome :=
  report.outcomes.filter fun outcome => outcome.cache = id

/-- The number of violations that some outcomes count together. -/
def countViolations (outcomes : List Outcome) : Nat :=
  outcomes.foldr (fun outcome count => outcome.verdict.violations + count) 0

/-- The verdict on a cache: failures are added up and come first, then a rule that
was not evaluated keeps the cache from passing. -/
def cacheVerdict (report : Report) (id : CacheId) : Verdict :=
  let outcomes := report.outcomesOf id
  let violations := countViolations outcomes
  if 0 < violations then
    .fail violations
  else if outcomes.any fun outcome => outcome.verdict = .skipped then
    .skipped
  else
    .pass

/-- Whether every invariant was evaluated for a cache and holds. -/
def cachePassed (report : Report) (id : CacheId) : Bool :=
  report.cacheVerdict id = .pass

theorem isClean_iff {report : Report} :
    report.isClean = true ↔ report.violations = [] :=
  List.isEmpty_iff

end Report

/-- A report with violations, as an error. -/
structure CoherenceFailure where
  first : Violation
  others : List Violation
  deriving DecidableEq, Repr

namespace CoherenceFailure

def count (failure : CoherenceFailure) : Nat :=
  failure.others.length + 1

/-- The wording of the error, which names the first violation. -/
def message (failure : CoherenceFailure) : String :=
  failure.count.repr ++ " coherence violation(s), first: " ++ failure.first.text

end CoherenceFailure

/-- The report as the outcome of a computation that fails unless it is clean. -/
def Report.toExcept (report : Report) : Except CoherenceFailure Unit :=
  match report.violations with
  | [] => .ok ()
  | first :: others => .error ⟨first, others⟩

end CacheCoherence
