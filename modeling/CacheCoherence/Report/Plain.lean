import CacheCoherence.Verification

/-!
# The report as text

The text report has three blocks, each under a heading of its own: the
statistics of the caches, the outcomes of the tests with the violations below
the outcome they belong to, and one line with the result.  It is built as a list
of lines, so that what it says can be stated of the lines.
-/

namespace CacheCoherence

/-- The lines on the statistics of one cache. -/
def CacheStatistics.lines (statistics : CacheStatistics) : List String :=
  ["Cache " ++ statistics.id.text ++ ":"] ++
    (match statistics.lastUsed with
      | some range =>
        ["\tMin last used: " ++ range.least.toNat.repr,
          "\tMax last used: " ++ range.greatest.toNat.repr]
      | none => ["\tNo data"]) ++
    [""] ++
    (LineState.all.map fun state =>
      "\t" ++ state.name ++ ": " ++ (statistics.count state).repr) ++
    ["", "\tTotal: " ++ statistics.total.repr, ""]

/-- The line on one outcome, and a line for each violation that it counts. -/
def Report.outcomeLines (report : Report) (outcome : Outcome) : List String :=
  ("\t" ++ outcome.verdict.label ++ ": " ++ outcome.invariant.testName) ::
    match outcome.verdict with
    | .fail _ =>
      (report.violationsUnder outcome.cache outcome.invariant).map fun violation =>
        "\t\t" ++ violation.text
    | _ => []

/-- The lines on the tests of one cache. -/
def Report.testLines (report : Report) (id : CacheId) : List String :=
  ("Testing cache " ++ id.text) :: (report.outcomesOf id).flatMap report.outcomeLines

namespace Verification

def resultLine (verification : Verification) : String :=
  let report := verification.report
  if verification.passed then
    "PASS: " ++ verification.snapshot.size.repr ++ " cache(s) verified"
  else
    "FAIL: " ++ report.violations.length.repr ++ " violation(s)" ++
      if report.mode = .failFast then " (stopped at first)" else ""

def plainLines (verification : Verification) : List String :=
  ["<<<Statistics>>>"] ++
    verification.statistics.caches.flatMap CacheStatistics.lines ++
    ["<<<Tests>>>"] ++
    verification.snapshot.ids.flatMap verification.report.testLines ++
    ["<<<Result>>>", verification.resultLine]

def plain (verification : Verification) : String :=
  Text.unlines verification.plainLines

end Verification

end CacheCoherence
