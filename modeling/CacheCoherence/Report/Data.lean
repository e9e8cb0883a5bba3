import CacheCoherence.Json.Writer
import CacheCoherence.Verification

/-!
# The report as data

The JSON form of statistics, outcomes and violations, and of the whole report.
Members come in a fixed order; what kind of violation or verdict a value is
stands in a member of its own, next to the members that only this kind has.
-/

namespace CacheCoherence

def CacheId.json (id : CacheId) : Json :=
  .number id.number.toNat

def Address.json (address : Address) : Json :=
  .object
    [("tag", .number address.tag.toNat),
      ("set_index", .number address.setIndex.toNat)]

def RecencyRange.json (range : RecencyRange) : Json :=
  .object
    [("min", .number range.least.toNat),
      ("max", .number range.greatest.toNat)]

def CacheStatistics.json (statistics : CacheStatistics) : Json :=
  .object
    [("cache_id", statistics.id.json),
      ("last_used", (statistics.lastUsed.map RecencyRange.json).getD .null),
      ("modified", .number statistics.modified),
      ("exclusive", .number statistics.exclusive),
      ("shared", .number statistics.shared),
      ("invalid", .number statistics.invalid),
      ("total", .number statistics.total)]

def Statistics.json (statistics : Statistics) : Json :=
  .list (statistics.caches.map CacheStatistics.json)

def Violation.json (violation : Violation) : Json :=
  let common : List (String × Json) :=
    [("invariant", .string violation.invariant.name),
      ("cache", violation.cache.json),
      ("address", violation.address.json),
      ("state", .string violation.state.name)]
  match violation.kind with
  | .duplicate occurrences =>
    .object ([("kind", .string "duplicate")] ++ common ++
      [("occurrences", .number occurrences)])
  | .conflict peer peerState =>
    .object ([("kind", .string "conflict")] ++ common ++
      [("peer", peer.json), ("peer_state", .string peerState.name)])

/-- The members that say what a verdict is. -/
def Verdict.members : Verdict → List (String × Json)
  | pass => [("verdict", .string "pass")]
  | fail violations => [("verdict", .string "fail"), ("violations", .number violations)]
  | skipped => [("verdict", .string "skipped")]

def Outcome.json (outcome : Outcome) : Json :=
  .object
    ([("cache", outcome.cache.json), ("invariant", .string outcome.invariant.name)] ++
      outcome.verdict.members)

def Report.outcomesJson (report : Report) : Json :=
  .list (report.outcomes.map Outcome.json)

def Report.violationsJson (report : Report) : Json :=
  .list (report.violations.map Violation.json)

def Report.json (report : Report) : Json :=
  .object
    [("mode", .string report.mode.name),
      ("violations", report.violationsJson),
      ("outcomes", report.outcomesJson)]

namespace Verification

def json (verification : Verification) : Json :=
  .object
    [("source", .string verification.source),
      ("passed", .bool verification.passed),
      ("mode", .string verification.report.mode.name),
      ("statistics", verification.statistics.json),
      ("results", verification.report.outcomesJson),
      ("violations", verification.report.violationsJson)]

def jsonText (verification : Verification) : String :=
  verification.json.pretty

end Verification

end CacheCoherence
