import CacheCoherence.Proofs.Coherence.Violations
import CacheCoherence.Proofs.Distinct
import CacheCoherence.Proofs.Parts

/-!
# The order of discovery

A violation is ranked by positions that the snapshot and the table give it, whatever a check
does: those of its subject and of its rule, then the place among what the rule finds there.
Ranks are compared from left to right.

The ranks of what an exhaustive check reports increase strictly.  This is proved from the
inside out, since each list that is put together has a position that all violations of one
part share and that increases from part to part.
-/

namespace CacheCoherence

/-! ## Ranks -/

/-- The position of the first record of an address in a state. -/
def firstListing (records : List Record) (state : LineState) (address : Address) : Nat :=
  records.findIdx fun record => record.state = state && record.address = address

/-- The states that the rule of an invariant forbids, in the order of the rule. -/
def Invariant.forbiddenIn (invariant : Invariant) (rules : List Rule) : List LineState :=
  (rules.filter fun rule => rule.invariant = invariant).flatMap Rule.forbidden

/-- The positions that rank a violation: those of the subject in the snapshot and of the rule
in the table, then duplicates in front of conflicts, for a conflict those of the peer in the
snapshot and of its state among the forbidden ones, and last the one at which the subject first
listed the address. -/
def Snapshot.rank (snapshot : Snapshot) (rules : List Rule) (violation : Violation) : List Nat :=
  let first := firstListing ((snapshot.records? violation.cache).getD []) violation.state
    violation.address
  let within := match violation.kind with
    | .duplicate _ => [0, first]
    | .conflict peer state =>
      [1, snapshot.ids.idxOf peer, (violation.invariant.forbiddenIn rules).idxOf state, first]
  snapshot.ids.idxOf violation.cache ::
    (rules.map Rule.invariant).idxOf violation.invariant :: within

/-- The one violation is ranked before the other. -/
def Snapshot.RanksBefore (snapshot : Snapshot) (rules : List Rule)
    (violation later : Violation) : Prop :=
  snapshot.rank rules violation < snapshot.rank rules later

/-- What a cache holds in a state is in the order in which it was first listed. -/
theorem Cache.pairwise_heldIn (cache : Cache) (state : LineState) :
    (cache.heldIn state).Pairwise fun address other =>
      firstListing cache.records state address < firstListing cache.records state other := by
  rw [heldIn]
  by_cases hstate : state.isValid = true
  · rw [cache.addressesIn_of_isValid hstate]
    exact pairwise_findIdx_eraseDups (fun record : Record => record.state = state)
      Record.address cache.records
  · have hinvalid : state = .invalid := by
      by_contra hne
      exact hstate (decide_eq_true hne)
    rw [hinvalid, cache.addressesIn_invalid]
    exact .nil

theorem Snapshot.pairwise_caches (snapshot : Snapshot) :
    snapshot.caches.Pairwise fun cache other =>
      snapshot.ids.idxOf cache.id < snapshot.ids.idxOf other.id := by
  have hids := pairwise_idxOf snapshot.nodup_ids
  rwa [List.pairwise_map] at hids

section Rank

variable {snapshot : Snapshot} {rules : List Rule} {rule : Rule} {cache : Cache}

theorem Snapshot.rank_duplicate
    (rules : List Rule) (hcache : cache ∈ snapshot.caches) (invariant : Invariant)
    (address : Address) (state : LineState) (occurrences : Nat) :
    snapshot.rank rules ⟨invariant, cache.id, address, state, .duplicate occurrences⟩ =
      [snapshot.ids.idxOf cache.id, (rules.map Rule.invariant).idxOf invariant, 0,
        firstListing cache.records state address] := by
  simp only [rank, records?_eq_some_iff.mpr hcache, Option.getD_some]

variable (hrules : (rules.map Rule.invariant).Nodup) (hrule : rule ∈ rules)
  (hcache : cache ∈ snapshot.caches)

include hrules hrule in
theorem Invariant.forbiddenIn_of_mem : rule.invariant.forbiddenIn rules = rule.forbidden := by
  rw [forbiddenIn, filter_key_eq_singleton hrules hrule, List.flatMap_singleton]

include hrules hrule hcache

theorem Snapshot.rank_conflict
    (address : Address) (state : LineState) (peer : CacheId) (peerState : LineState) :
    snapshot.rank rules ⟨rule.invariant, cache.id, address, state, .conflict peer peerState⟩ =
      [snapshot.ids.idxOf cache.id, (rules.map Rule.invariant).idxOf rule.invariant, 1,
        snapshot.ids.idxOf peer, rule.forbidden.idxOf peerState,
        firstListing cache.records state address] := by
  simp only [rank, records?_eq_some_iff.mpr hcache, Option.getD_some,
    Invariant.forbiddenIn_of_mem hrules hrule]

/-- Conflicts of one rule and one subject are ranked by the three positions that are left. -/
theorem Snapshot.ranksBefore_conflict_iff
    {address next : Address} {peer nextPeer : CacheId} {peerState nextState : LineState} :
    snapshot.RanksBefore rules
        ⟨rule.invariant, cache.id, address, rule.subject, .conflict peer peerState⟩
        ⟨rule.invariant, cache.id, next, rule.subject, .conflict nextPeer nextState⟩ ↔
      [snapshot.ids.idxOf peer, rule.forbidden.idxOf peerState,
          firstListing cache.records rule.subject address] <
        [snapshot.ids.idxOf nextPeer, rule.forbidden.idxOf nextState,
          firstListing cache.records rule.subject next] := by
  rw [RanksBefore, rank_conflict hrules hrule hcache, rank_conflict hrules hrule hcache]
  simp only [List.cons_lt_cons_self]

/-! ## What a rule finds -/

namespace Rule

omit hrules hrule in
theorem pairwise_duplicates (rules : List Rule) (rule : Rule) :
    (rule.duplicates cache).Pairwise (snapshot.RanksBefore rules) := by
  rw [duplicates, List.pairwise_map]
  refine ((cache.pairwise_heldIn rule.subject).filter _).imp fun hlt => ?_
  rw [Snapshot.RanksBefore, Snapshot.rank_duplicate rules hcache,
    Snapshot.rank_duplicate rules hcache]
  exact List.Lex.cons (.cons (.cons (.rel hlt)))

theorem pairwise_conflictsIn (peer : Cache) (state : LineState) :
    (rule.conflictsIn cache.id (cache.heldIn rule.subject) peer state).Pairwise
      (snapshot.RanksBefore rules) := by
  rw [conflictsIn, List.pairwise_map]
  refine ((cache.pairwise_heldIn rule.subject).filter _).imp fun hlt => ?_
  rw [Snapshot.ranksBefore_conflict_iff hrules hrule hcache]
  exact List.Lex.cons (.cons (.rel hlt))

variable (hforbidden : rule.forbidden.Nodup)

include hforbidden

theorem pairwise_conflictsWith (peer : Cache) :
    (rule.conflictsWith cache.id (cache.heldIn rule.subject) peer).Pairwise
      (snapshot.RanksBefore rules) := by
  refine List.pairwise_flatMap.mpr ⟨fun state _ => ?_, ?_⟩
  · exact pairwise_conflictsIn hrules hrule hcache peer state
  · refine (pairwise_idxOf hforbidden).imp fun hlt violation hviolation later hlater => ?_
    obtain ⟨address, -, rfl⟩ := List.mem_map.mp hviolation
    obtain ⟨address', -, rfl⟩ := List.mem_map.mp hlater
    rw [Snapshot.ranksBefore_conflict_iff hrules hrule hcache]
    exact List.Lex.cons (.rel hlt)

theorem pairwise_conflicts :
    (rule.conflicts snapshot cache).Pairwise (snapshot.RanksBefore rules) := by
  refine List.pairwise_flatMap.mpr ⟨fun peer _ => ?_, ?_⟩
  · exact pairwise_conflictsWith hrules hrule hcache hforbidden peer
  · refine (snapshot.pairwise_caches.filter _).imp fun hlt violation hviolation later hlater => ?_
    obtain ⟨address, state, rfl⟩ := eq_of_mem_conflictsWith hviolation
    obtain ⟨address', state', rfl⟩ := eq_of_mem_conflictsWith hlater
    rw [Snapshot.ranksBefore_conflict_iff hrules hrule hcache]
    exact List.Lex.rel hlt

theorem pairwise_findings :
    (rule.findings snapshot cache).Pairwise (snapshot.RanksBefore rules) := by
  refine List.pairwise_append.mpr ⟨pairwise_duplicates hcache rules rule,
    pairwise_conflicts hrules hrule hcache hforbidden, ?_⟩
  intro violation hduplicate later hconflict
  obtain ⟨address, -, rfl⟩ := mem_duplicates_iff.mp hduplicate
  obtain ⟨peer, -, -, state, -, address', -, -, rfl⟩ := mem_conflicts_iff.mp hconflict
  rw [Snapshot.RanksBefore, Snapshot.rank_duplicate rules hcache,
    Snapshot.rank_conflict hrules hrule hcache]
  exact List.Lex.cons (.cons (.rel Nat.zero_lt_one))

end Rule

end Rank

/-! ## What a check reports -/

namespace Snapshot

theorem pairwise_violations_check
    (snapshot : Snapshot) {rules : List Rule} (hrules : (rules.map Rule.invariant).Nodup)
    (hforbidden : ∀ rule ∈ rules, rule.forbidden.Nodup) :
    (snapshot.check rules .exhaustive).violations.Pairwise (snapshot.RanksBefore rules) := by
  rw [violations_check_exhaustive]
  refine List.pairwise_flatMap.mpr ⟨fun cache hcache => ?_, ?_⟩
  · refine List.pairwise_flatMap.mpr ⟨fun rule hrule => ?_, ?_⟩
    · exact Rule.pairwise_findings hrules hrule hcache (hforbidden rule hrule)
    · have hincrease := pairwise_idxOf hrules
      rw [List.pairwise_map] at hincrease
      refine hincrease.imp fun hlt violation hviolation later hlater => ?_
      rw [RanksBefore, rank, rank, Rule.cache_of_mem_findings hviolation,
        Rule.cache_of_mem_findings hlater, Rule.invariant_of_mem_findings hviolation,
        Rule.invariant_of_mem_findings hlater]
      exact List.Lex.cons (.rel hlt)
  · refine snapshot.pairwise_caches.imp fun hlt violation hviolation later hlater => ?_
    obtain ⟨rule, -, hfound⟩ := List.mem_flatMap.mp hviolation
    obtain ⟨next, -, hfound'⟩ := List.mem_flatMap.mp hlater
    rw [RanksBefore, rank, rank, Rule.cache_of_mem_findings hfound,
      Rule.cache_of_mem_findings hfound']
    exact List.Lex.rel hlt

/-- An exhaustive check reports violations in the order of discovery, no two of one rank. -/
theorem violations_check_increase_in_rank (snapshot : Snapshot) :
    (snapshot.check Protocol.mesi.rules .exhaustive).violations.Pairwise fun violation later =>
      snapshot.rank Protocol.mesi.rules violation < snapshot.rank Protocol.mesi.rules later :=
  snapshot.pairwise_violations_check Protocol.nodup_invariants_mesi
    fun _ hrule => Protocol.nodup_forbidden_mesi hrule

/-- The first cache lists an address twice as modified, the second one shares it. -/
example :
    let snapshot : Snapshot :=
      ⟨[⟨⟨7⟩, [⟨0, 1, 0, .invalid⟩, ⟨0, 1, 0, .modified⟩, ⟨0, 1, 9, .modified⟩]⟩,
        ⟨⟨3⟩, [⟨0, 1, 0, .shared⟩]⟩], by decide⟩
    (snapshot.check Protocol.mesi.rules .exhaustive).violations.map
        (snapshot.rank Protocol.mesi.rules) =
      [[0, 0, 0, 1], [0, 0, 1, 1, 2, 1], [1, 2, 1, 0, 0, 0]] := by
  decide

end Snapshot

end CacheCoherence
