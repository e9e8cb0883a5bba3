import CacheCoherence.Coherence.Check
import CacheCoherence.Proofs.Distinct
import Mathlib.Data.List.Count
import Mathlib.Data.List.Nodup
import Mathlib.Logic.Embedding.Basic

/-!
# Names of caches and addresses

A check compares identifiers and addresses with each other and looks at nothing else of
them.  When they are replaced by others, different ones by different ones, the report of a
check is the same report with the names replaced in it: the order of violations and outcomes
stays, and so does the place where a run that fails fast stops.
-/

namespace CacheCoherence

/-- New names for caches and for addresses; what has different names gets different
names. -/
structure Renaming where
  cacheId : CacheId ↪ CacheId
  address : Address ↪ Address

/-! ## Renaming snapshots and reports -/

def Record.rename (names : Renaming) (record : Record) : Record :=
  let address := names.address record.address
  { record with tag := address.tag, setIndex := address.setIndex }

def Cache.rename (names : Renaming) (cache : Cache) : Cache :=
  ⟨names.cacheId cache.id, cache.records.map (Record.rename names)⟩

def Snapshot.rename (names : Renaming) (snapshot : Snapshot) : Snapshot where
  caches := snapshot.caches.map (Cache.rename names)
  nodup_ids := by
    have hids := snapshot.nodup_ids.map names.cacheId.injective
    rw [List.map_map] at hids ⊢
    exact hids

def Violation.Kind.rename (names : Renaming) : Violation.Kind → Violation.Kind
  | duplicate occurrences => duplicate occurrences
  | conflict peer peerState => conflict (names.cacheId peer) peerState

def Violation.rename (names : Renaming) (violation : Violation) : Violation :=
  { violation with
    cache := names.cacheId violation.cache
    address := names.address violation.address
    kind := violation.kind.rename names }

def Outcome.rename (names : Renaming) (outcome : Outcome) : Outcome :=
  { outcome with cache := names.cacheId outcome.cache }

def Report.rename (names : Renaming) (report : Report) : Report :=
  { report with
    violations := report.violations.map (Violation.rename names)
    outcomes := report.outcomes.map (Outcome.rename names) }

variable (names : Renaming)

/-! ## What a renamed cache lists -/

theorem Record.address_rename (record : Record) :
    (record.rename names).address = names.address record.address := rfl

theorem Cache.addressesIn_rename (cache : Cache) (state : LineState) :
    (cache.rename names).addressesIn state =
      (cache.addressesIn state).map names.address := by
  rw [addressesIn_eq, rename, List.filter_map, List.map_map, addressesIn_eq, List.map_map]
  exact List.map_congr_left fun record _ => record.address_rename names

theorem Cache.heldIn_rename (cache : Cache) (state : LineState) :
    (cache.rename names).heldIn state = (cache.heldIn state).map names.address := by
  rw [heldIn, addressesIn_rename, eraseDups_map names.address.injective, heldIn]

/-! ## What a rule finds there -/

namespace Rule

theorem duplicates_rename (rule : Rule) (cache : Cache) :
    rule.duplicates (cache.rename names) =
      (rule.duplicates cache).map (Violation.rename names) := by
  let listed := cache.addressesIn rule.subject
  have hcount : ∀ address,
      (listed.map names.address).count (names.address address) = listed.count address :=
    fun address => List.count_map_of_injective _ _ names.address.injective _
  have htwice : ((listed.map names.address).eraseDups.filter fun address =>
      1 < (listed.map names.address).count address) =
        (listed.eraseDups.filter fun address => 1 < listed.count address).map
          names.address := by
    rw [eraseDups_map names.address.injective, List.filter_map]
    congr 1
    refine List.filter_congr fun address _ => ?_
    rw [Function.comp_apply, hcount]
  rw [duplicates, Cache.addressesIn_rename, duplicates, List.map_map]
  change List.map _ ((listed.map names.address).eraseDups.filter fun address =>
    1 < (listed.map names.address).count address) = _
  rw [htwice, List.map_map]
  refine List.map_congr_left fun address _ => ?_
  rw [Function.comp_apply, hcount]
  rfl

theorem conflictsIn_rename
    (rule : Rule) (subject : CacheId) (held : List Address) (peer : Cache) (state : LineState) :
    rule.conflictsIn (names.cacheId subject) (held.map names.address)
        (peer.rename names) state =
      (rule.conflictsIn subject held peer state).map (Violation.rename names) := by
  have hheld : ((held.map names.address).filter fun address =>
      address ∈ (peer.addressesIn state).map names.address) =
        (held.filter fun address => address ∈ peer.addressesIn state).map names.address := by
    rw [List.filter_map]
    congr 1
    refine List.filter_congr fun address _ => decide_eq_decide.mpr ?_
    exact List.mem_map_of_injective names.address.injective
  rw [conflictsIn_eq, Cache.addressesIn_rename, conflictsIn_eq, hheld, List.map_map, List.map_map]
  rfl

theorem conflictsWith_rename
    (rule : Rule) (subject : CacheId) (held : List Address) (peer : Cache) :
    rule.conflictsWith (names.cacheId subject) (held.map names.address)
        (peer.rename names) =
      (rule.conflictsWith subject held peer).map (Violation.rename names) := by
  rw [conflictsWith, conflictsWith, List.map_flatMap]
  exact List.flatMap_congr fun state _ => rule.conflictsIn_rename names subject held peer state

theorem conflicts_rename (rule : Rule) (snapshot : Snapshot) (cache : Cache) :
    rule.conflicts (snapshot.rename names) (cache.rename names) =
      (rule.conflicts snapshot cache).map (Violation.rename names) := by
  have hpeers : ((snapshot.rename names).caches.filter fun peer =>
      peer.id ≠ names.cacheId cache.id) =
        (snapshot.caches.filter fun peer => peer.id ≠ cache.id).map (Cache.rename names) := by
    rw [Snapshot.rename, List.filter_map]
    congr 1
    refine List.filter_congr fun peer _ => decide_eq_decide.mpr ?_
    exact names.cacheId.injective.ne_iff
  change ((snapshot.rename names).caches.filter fun peer =>
    peer.id ≠ names.cacheId cache.id).flatMap (rule.conflictsWith (names.cacheId cache.id)
      ((cache.rename names).heldIn rule.subject)) = _
  rw [hpeers, Cache.heldIn_rename, List.flatMap_map, conflicts, List.map_flatMap]
  exact List.flatMap_congr fun peer _ => rule.conflictsWith_rename names cache.id _ peer

theorem findings_rename (rule : Rule) (snapshot : Snapshot) (cache : Cache) :
    rule.findings (snapshot.rename names) (cache.rename names) =
      (rule.findings snapshot cache).map (Violation.rename names) := by
  rw [findings, duplicates_rename, conflicts_rename, findings, List.map_append]

end Rule

/-! ## Runs over renamed tasks -/

def Task.rename (task : Task) : Task :=
  ⟨task.cache.rename names, task.rule⟩

def Evaluation.rename (evaluation : Evaluation) : Evaluation :=
  ⟨evaluation.task.rename names,
    evaluation.kept?.map fun kept => kept.map (Violation.rename names)⟩

namespace Evaluation

theorem violations_rename (evaluation : Evaluation) :
    (evaluation.rename names).violations =
      evaluation.violations.map (Violation.rename names) := by
  obtain ⟨task, kept?⟩ := evaluation
  cases kept? with
  | none => rfl
  | some kept => rfl

theorem outcome_rename (evaluation : Evaluation) :
    (evaluation.rename names).outcome = evaluation.outcome.rename names := by
  obtain ⟨task, kept?⟩ := evaluation
  have hverdict :
      (rename names ⟨task, kept?⟩).verdict = (⟨task, kept?⟩ : Evaluation).verdict := by
    cases kept? with
    | none => rfl
    | some kept =>
        cases kept with
        | nil => rfl
        | cons first others => simp [rename, verdict]
  rw [outcome, hverdict]
  rfl

end Evaluation

variable {names}

theorem Mode.evaluate_rename
    {find found : Task → List Violation}
    (hfind : ∀ task, found (task.rename names) = (find task).map (Violation.rename names))
    (mode : Mode) (tasks : List Task) :
    mode.evaluate found (tasks.map (Task.rename names)) =
      (mode.evaluate find tasks).map (Evaluation.rename names) :=
  mode.evaluate_map fun task _ => hfind task

namespace Snapshot

theorem tasks_rename (snapshot : Snapshot) (rules : List Rule) (names : Renaming) :
    (snapshot.rename names).tasks rules =
      (snapshot.tasks rules).map (Task.rename names) :=
  tasks_of_caches_eq_map rfl rules

/-- The report on a renamed snapshot is the renamed report on the snapshot, in both modes. -/
theorem check_rename
    (snapshot : Snapshot) (names : Renaming) (rules : List Rule) (mode : Mode) :
    (snapshot.rename names).check rules mode =
      (snapshot.check rules mode).rename names := by
  have hevaluations : (snapshot.rename names).evaluations rules mode =
      (snapshot.evaluations rules mode).map (Evaluation.rename names) := by
    rw [evaluations, tasks_rename]
    refine mode.evaluate_rename (fun task => ?_) _
    exact task.rule.findings_rename names snapshot task.cache
  have hviolations : ((snapshot.rename names).check rules mode).violations =
      (snapshot.check rules mode).violations.map (Violation.rename names) := by
    simp only [check, hevaluations, List.flatMap_map, List.map_flatMap,
      Evaluation.violations_rename]
  have houtcomes : ((snapshot.rename names).check rules mode).outcomes =
      (snapshot.check rules mode).outcomes.map (Outcome.rename names) := by
    simp only [check, hevaluations, List.map_map]
    exact List.map_congr_left fun evaluation _ => evaluation.outcome_rename names
  rw [Report.rename, ← hviolations, ← houtcomes]
  rfl

end Snapshot

end CacheCoherence
