import CacheCoherence.Proofs.Coherence.Violations
import CacheCoherence.Proofs.Distinct
import CacheCoherence.Proofs.Parts

/-!
# Parts of a snapshot

A scope selects some caches and some addresses.  A snapshot is restricted to a scope by
leaving out the other caches, and in those that stay the records of other addresses.  An
exhaustive check of what is left reports the violations of the whole that lie within the
scope, in their order and with their numbers of occurrences.

So what is reported on two caches and one address is decided by the records that these
caches have of that address.
-/

namespace CacheCoherence

/-- A choice of caches and of addresses. -/
structure Scope where
  hasCache : CacheId → Bool
  hasAddress : Address → Bool

/-- The cache with its records of the addresses in the scope. -/
def Cache.restrict (cache : Cache) (scope : Scope) : Cache :=
  ⟨cache.id, cache.records.filter fun record => scope.hasAddress record.address⟩

/-- The caches in the scope, with their records of the addresses in the scope. -/
def Snapshot.restrict (snapshot : Snapshot) (scope : Scope) : Snapshot where
  caches := (snapshot.caches.filter fun cache => scope.hasCache cache.id).map fun cache =>
    cache.restrict scope
  nodup_ids := by
    have hids := snapshot.nodup_ids.sublist
      ((List.filter_sublist (p := fun cache => scope.hasCache cache.id)).map Cache.id)
    rw [List.map_map]
    exact hids

/-- Whether a violation is about an address in the scope, and about caches in the scope
only. -/
def Violation.isWithin (violation : Violation) (scope : Scope) : Bool :=
  scope.hasCache violation.cache && scope.hasAddress violation.address &&
    match violation.kind with
    | .duplicate _ => true
    | .conflict peer _ => scope.hasCache peer

variable (scope : Scope)

/-! ## What a restricted cache lists -/

theorem Cache.addressesIn_restrict (cache : Cache) (state : LineState) :
    (cache.restrict scope).addressesIn state =
      (cache.addressesIn state).filter scope.hasAddress := by
  rw [addressesIn_eq, restrict, List.filter_comm, addressesIn_eq, List.filter_map]
  rfl

theorem Cache.heldIn_restrict (cache : Cache) (state : LineState) :
    (cache.restrict scope).heldIn state = (cache.heldIn state).filter scope.hasAddress := by
  rw [heldIn, addressesIn_restrict, eraseDups_filter, heldIn]

/-! ## What a rule finds in it -/

namespace Rule

theorem duplicates_restrict (rule : Rule) (cache : Cache) :
    rule.duplicates (cache.restrict scope) =
      (rule.duplicates cache).filter fun violation => scope.hasAddress violation.address := by
  let listed := cache.addressesIn rule.subject
  let kept := listed.filter scope.hasAddress
  -- An address of the scope is listed as often as before.
  have hcount : ∀ address, scope.hasAddress address = true →
      kept.count address = listed.count address :=
    fun address haddress => List.count_filter haddress
  have htwice : (kept.eraseDups.filter fun address => 1 < kept.count address) =
      (listed.eraseDups.filter fun address => 1 < listed.count address).filter
        scope.hasAddress := by
    rw [eraseDups_filter, List.filter_filter, List.filter_filter]
    refine List.filter_congr fun address _ => ?_
    cases haddress : scope.hasAddress address with
    | false => rw [Bool.and_false, Bool.false_and]
    | true => rw [hcount address haddress, Bool.and_comm]
  rw [duplicates, Cache.addressesIn_restrict, duplicates, List.filter_map]
  change List.map _ (kept.eraseDups.filter fun address => 1 < kept.count address) =
    List.map _ ((listed.eraseDups.filter fun address => 1 < listed.count address).filter
      scope.hasAddress)
  rw [htwice]
  refine List.map_congr_left fun address haddress => ?_
  rw [hcount address (List.mem_filter.mp haddress).2]
  rfl

theorem conflictsIn_restrict
    (rule : Rule) (subject : CacheId) (held : List Address) (peer : Cache) (state : LineState) :
    rule.conflictsIn subject (held.filter scope.hasAddress) (peer.restrict scope) state =
      (rule.conflictsIn subject held peer state).filter fun violation =>
        scope.hasAddress violation.address := by
  rw [conflictsIn_eq, Cache.addressesIn_restrict, conflictsIn_eq, List.filter_map,
    List.filter_filter]
  have hheld : (held.filter fun address =>
      decide (address ∈ (peer.addressesIn state).filter scope.hasAddress) &&
        scope.hasAddress address) =
      (held.filter fun address => decide (address ∈ peer.addressesIn state)).filter
        scope.hasAddress := by
    rw [List.filter_filter]
    refine List.filter_congr fun address _ => ?_
    cases haddress : scope.hasAddress address with
    | false => rw [Bool.and_false, Bool.false_and]
    | true => simp [haddress]
  rw [hheld]
  rfl

theorem conflictsWith_restrict
    (rule : Rule) (subject : CacheId) (held : List Address) (peer : Cache) :
    rule.conflictsWith subject (held.filter scope.hasAddress) (peer.restrict scope) =
      (rule.conflictsWith subject held peer).filter fun violation =>
        scope.hasAddress violation.address := by
  rw [conflictsWith, conflictsWith, List.filter_flatMap]
  exact List.flatMap_congr fun state _ => rule.conflictsIn_restrict scope subject held peer state

variable {scope} {snapshot : Snapshot} {cache : Cache}

theorem conflicts_restrict (rule : Rule) (hcache : scope.hasCache cache.id = true) :
    rule.conflicts (snapshot.restrict scope) (cache.restrict scope) =
      (rule.conflicts snapshot cache).filter fun violation => violation.isWithin scope := by
  have hpeers : ((snapshot.restrict scope).caches.filter fun peer => peer.id ≠ cache.id) =
      ((snapshot.caches.filter fun peer => peer.id ≠ cache.id).filter fun peer =>
        scope.hasCache peer.id).map fun peer => peer.restrict scope := by
    rw [Snapshot.restrict, List.filter_map, List.filter_comm]
    rfl
  change ((snapshot.restrict scope).caches.filter fun peer => peer.id ≠ cache.id).flatMap
      (rule.conflictsWith cache.id ((cache.restrict scope).heldIn rule.subject)) = _
  rw [hpeers, Cache.heldIn_restrict, List.flatMap_map]
  refine flatMap_filter_eq_filter_flatMap ?_ ?_
  · intro peer _ hpeer
    rw [conflictsWith_restrict]
    refine List.filter_congr fun violation hviolation => ?_
    obtain ⟨address, state, rfl⟩ := eq_of_mem_conflictsWith hviolation
    simp only [Violation.isWithin, hcache, hpeer, Bool.true_and, Bool.and_true]
  · intro peer _ hpeer
    refine List.filter_eq_nil_iff.mpr fun violation hviolation => ?_
    obtain ⟨address, state, rfl⟩ := eq_of_mem_conflictsWith hviolation
    simp only [Violation.isWithin, hpeer, Bool.and_false, Bool.false_eq_true, not_false_eq_true]

/-- With a cache of the scope as the subject, a rule finds in what is left the violations
that lie within the scope. -/
theorem findings_restrict (rule : Rule) (hcache : scope.hasCache cache.id = true) :
    rule.findings (snapshot.restrict scope) (cache.restrict scope) =
      (rule.findings snapshot cache).filter fun violation => violation.isWithin scope := by
  have hduplicates : (rule.duplicates cache).filter (fun violation =>
      scope.hasAddress violation.address) =
        (rule.duplicates cache).filter fun violation => violation.isWithin scope := by
    refine List.filter_congr fun violation hviolation => ?_
    obtain ⟨address, -, rfl⟩ := mem_duplicates_iff.mp hviolation
    simp only [Violation.isWithin, hcache, Bool.true_and, Bool.and_true]
  rw [findings, duplicates_restrict, hduplicates, conflicts_restrict rule hcache, findings,
    List.filter_append]

end Rule

namespace Snapshot

/-! ## What a check reports of it -/

theorem violations_check_restrict (snapshot : Snapshot) (rules : List Rule) (scope : Scope) :
    ((snapshot.restrict scope).check rules .exhaustive).violations =
      (snapshot.check rules .exhaustive).violations.filter fun violation =>
        violation.isWithin scope := by
  rw [violations_check_exhaustive, violations_check_exhaustive]
  change List.flatMap _ ((snapshot.caches.filter fun cache =>
    scope.hasCache cache.id).map fun cache => cache.restrict scope) = _
  rw [List.flatMap_map]
  refine flatMap_filter_eq_filter_flatMap ?_ ?_
  · intro cache _ hcache
    rw [List.filter_flatMap]
    exact List.flatMap_congr fun rule _ => Rule.findings_restrict rule hcache
  · -- The violations of a cache outside the scope have it as their subject.
    intro cache _ hcache
    refine List.filter_eq_nil_iff.mpr fun violation hviolation => ?_
    obtain ⟨rule, -, hfound⟩ := List.mem_flatMap.mp hviolation
    have hsubject : scope.hasCache violation.cache = false := by
      rw [Rule.cache_of_mem_findings hfound, hcache]
    simp only [Violation.isWithin, hsubject, Bool.false_and, Bool.false_eq_true,
      not_false_eq_true]

/-- An exhaustive check of a part of a snapshot reports the violations of the whole that lie
within the part, in the same order; and what it reports of a part is the same for all
snapshots that agree in it. -/
theorem check_restrict_reports_within (snapshot : Snapshot) (rules : List Rule) (scope : Scope) :
    let within (whole : Snapshot) := (whole.check rules .exhaustive).violations.filter
      fun violation => violation.isWithin scope
    ((snapshot.restrict scope).check rules .exhaustive).violations = within snapshot ∧
      ∀ other : Snapshot, other.restrict scope = snapshot.restrict scope →
        within other = within snapshot := by
  intro within
  refine ⟨snapshot.violations_check_restrict rules scope, fun other hagree => ?_⟩
  calc within other
      = ((other.restrict scope).check rules .exhaustive).violations :=
        (other.violations_check_restrict rules scope).symm
    _ = ((snapshot.restrict scope).check rules .exhaustive).violations := by rw [hagree]
    _ = within snapshot := snapshot.violations_check_restrict rules scope

end Snapshot

end CacheCoherence
