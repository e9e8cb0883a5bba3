import CacheCoherence.Coherence.Check
import Mathlib.Data.List.Basic

/-!
# What a check looks at

A check compares the addresses that caches hold in valid states.  Lines without a copy, and
the recency of lines, can be left out of a snapshot without a change to its report: what is
found stays in its order and keeps its numbers of occurrences, and a run that fails fast
stops at the same place.

So the report is the same for all snapshots that agree in the rest.
-/

namespace CacheCoherence

/-! ## Observed snapshots -/

/-- The record without its recency. -/
def Record.forgetRecency (record : Record) : Record :=
  { record with lastUsed := 0 }

/-- The cache with its valid lines only, and without their recency. -/
def Cache.observed (cache : Cache) : Cache :=
  ⟨cache.id, (cache.records.filter fun record => record.state.isValid).map Record.forgetRecency⟩

/-- The snapshot with the valid lines of its caches only, and without their recency. -/
def Snapshot.observed (snapshot : Snapshot) : Snapshot where
  caches := snapshot.caches.map Cache.observed
  nodup_ids := by
    rw [List.map_map]
    exact snapshot.nodup_ids

theorem Cache.addressesIn_observed (cache : Cache) (state : LineState) :
    cache.observed.addressesIn state = cache.addressesIn state := by
  let valid := cache.records.filter fun record => record.state.isValid
  calc cache.observed.addressesIn state
      = (valid.filter fun record => record.state = state && record.state.isValid).map
          Record.address := by
        rw [addressesIn_eq, observed, List.filter_map, List.map_map]
        rfl
    _ = cache.addressesIn state := by
        rw [List.filter_filter, addressesIn_eq]
        simp only [Bool.and_assoc, Bool.and_self]

/-! ## What a rule finds in them -/

namespace Rule

variable (rule : Rule)

theorem duplicates_observed (cache : Cache) :
    rule.duplicates cache.observed = rule.duplicates cache := by
  rw [duplicates, cache.addressesIn_observed, duplicates]
  rfl

theorem conflictsWith_observed (subject : CacheId) (held : List Address) (peer : Cache) :
    rule.conflictsWith subject held peer.observed = rule.conflictsWith subject held peer := by
  rw [conflictsWith, conflictsWith]
  refine List.flatMap_congr fun state _ => ?_
  rw [conflictsIn_eq, peer.addressesIn_observed, conflictsIn_eq]
  rfl

theorem conflicts_observed (snapshot : Snapshot) (cache : Cache) :
    rule.conflicts snapshot.observed cache.observed = rule.conflicts snapshot cache := by
  have hheld : cache.observed.heldIn rule.subject = cache.heldIn rule.subject := by
    rw [Cache.heldIn, cache.addressesIn_observed, Cache.heldIn]
  rw [conflicts, hheld, Snapshot.observed, List.filter_map, List.flatMap_map, conflicts]
  exact List.flatMap_congr fun peer _ => rule.conflictsWith_observed cache.id _ peer

theorem findings_observed (snapshot : Snapshot) (cache : Cache) :
    rule.findings snapshot.observed cache.observed = rule.findings snapshot cache := by
  rw [findings, duplicates_observed, conflicts_observed, findings]

end Rule

/-! ## What a check reports of them -/

def Task.observed (task : Task) : Task :=
  ⟨task.cache.observed, task.rule⟩

namespace Snapshot

theorem tasks_observed (snapshot : Snapshot) (rules : List Rule) :
    snapshot.observed.tasks rules = (snapshot.tasks rules).map Task.observed :=
  tasks_of_caches_eq_map rfl rules

theorem evaluations_observed (snapshot : Snapshot) (rules : List Rule) (mode : Mode) :
    snapshot.observed.evaluations rules mode =
      (snapshot.evaluations rules mode).map fun evaluation =>
        ⟨evaluation.task.observed, evaluation.kept?⟩ := by
  have hfind : ∀ task ∈ snapshot.tasks rules,
      task.observed.findings snapshot.observed = (task.findings snapshot).map id := by
    intro task _
    rw [List.map_id]
    exact task.rule.findings_observed snapshot task.cache
  rw [evaluations, tasks_observed, mode.evaluate_map hfind]
  simp only [List.map_id_fun, Option.map_id_fun, id_eq]
  rfl

/-- What a check looks at decides its report, in both modes. -/
theorem check_observed (snapshot : Snapshot) (rules : List Rule) (mode : Mode) :
    snapshot.observed.check rules mode = snapshot.check rules mode := by
  rw [check, evaluations_observed, check]
  simp only [List.flatMap_map, List.map_map]
  rfl

/-- Snapshots with the same caches in the same order, whose valid lines agree in everything but
their recency, have the same report in both modes. -/
theorem check_eq_of_observed_eq
    {snapshot other : Snapshot} (hobserved : snapshot.observed = other.observed) (mode : Mode) :
    snapshot.check Protocol.mesi.rules mode = other.check Protocol.mesi.rules mode := by
  have hcheck : ∀ whole : Snapshot, whole.observed.check Protocol.mesi.rules mode =
      whole.check Protocol.mesi.rules mode :=
    fun whole => whole.check_observed Protocol.mesi.rules mode
  calc snapshot.check Protocol.mesi.rules mode
      = snapshot.observed.check Protocol.mesi.rules mode := (hcheck snapshot).symm
    _ = other.observed.check Protocol.mesi.rules mode := by rw [hobserved]
    _ = other.check Protocol.mesi.rules mode := hcheck other

/-- Lines without a copy in between and other counters, when a run that fails fast stops at the
first of two caches. -/
theorem check_eq_of_observed_eq_failFast :
    let snapshot : Snapshot :=
      ⟨[⟨⟨0⟩, [⟨0, 1, 5, .modified⟩, ⟨0, 2, 6, .exclusive⟩]⟩, ⟨⟨1⟩, [⟨0, 1, 2, .shared⟩]⟩],
        by decide⟩
    let other : Snapshot :=
      ⟨[⟨⟨0⟩, [⟨0, 1, 9, .invalid⟩, ⟨0, 1, 0, .modified⟩, ⟨0, 2, 0, .exclusive⟩]⟩,
        ⟨⟨1⟩, [⟨0, 1, 7, .shared⟩, ⟨0, 1, 7, .invalid⟩]⟩], by decide⟩
    snapshot.observed = other.observed ∧
      snapshot.check Protocol.mesi.rules .failFast = other.check Protocol.mesi.rules .failFast := by
  intro snapshot other
  have hobserved : snapshot.observed = other.observed := by decide
  exact ⟨hobserved, check_eq_of_observed_eq hobserved .failFast⟩

end Snapshot

end CacheCoherence
