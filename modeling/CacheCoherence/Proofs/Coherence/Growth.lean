import CacheCoherence.Proofs.Coherence.Involvement

/-!
# More contents

A snapshot grows when caches are added to it, or records to its caches.  The reports before
and after cannot be compared entry by entry, because duplicates occur more often and the order
changes, but no violation goes away: what two records have against each other does not depend
on the others.

So a snapshot is clean when a larger one is, and a cache passes in it when it passes there.
-/

namespace CacheCoherence

/-- Every cache of the one snapshot is in the other, with at least its records, in any order. -/
def Snapshot.IsPartOf (snapshot whole : Snapshot) : Prop :=
  ∀ cache ∈ snapshot.caches, ∃ larger ∈ whole.caches,
    larger.id = cache.id ∧ cache.records.Subperm larger.records

namespace Snapshot

instance (snapshot whole : Snapshot) : Decidable (snapshot.IsPartOf whole) :=
  inferInstanceAs (Decidable (∀ cache ∈ snapshot.caches, ∃ larger ∈ whole.caches,
    larger.id = cache.id ∧ cache.records.Subperm larger.records))

section IsPartOf

variable {snapshot whole : Snapshot} (hpart : snapshot.IsPartOf whole)

include hpart

/-! ## What violates the law -/

theorem Violates.conflict_of_isPartOf
    {invariant : Invariant} {id peer : CacheId} {address : Address} {state peerState : LineState}
    (h : snapshot.Violates ⟨invariant, id, address, state, .conflict peer peerState⟩) :
    whole.Violates ⟨invariant, id, address, state, .conflict peer peerState⟩ := by
  cases h with
  | @conflict _ cache peer _ _ _ hcache hpeer hne hlists hpeerLists hstate hpeerState hshared
      hinvariant =>
      obtain ⟨larger, hlarger, hid, hrecords⟩ := hpart cache hcache
      obtain ⟨largerPeer, hlargerPeer, hpeerId, hpeerRecords⟩ := hpart peer hpeer
      obtain ⟨record, hrecord, hheld⟩ := hlists
      obtain ⟨peerRecord, hpeerRecord, hpeerHeld⟩ := hpeerLists
      rw [← hid, ← hpeerId] at hne ⊢
      exact .conflict hlarger hlargerPeer hne ⟨record, hrecords.subset hrecord, hheld⟩
        ⟨peerRecord, hpeerRecords.subset hpeerRecord, hpeerHeld⟩ hstate hpeerState hshared
        hinvariant

theorem Violates.duplicate_of_isPartOf
    {invariant : Invariant} {id : CacheId} {address : Address} {state : LineState}
    {occurrences : Nat}
    (h : snapshot.Violates ⟨invariant, id, address, state, .duplicate occurrences⟩) :
    ∃ more, occurrences ≤ more ∧
      whole.Violates ⟨invariant, id, address, state, .duplicate more⟩ := by
  cases h with
  | @duplicate _ cache _ _ hcache hstate hinvariant htwice =>
      obtain ⟨larger, hlarger, hid, hrecords⟩ := hpart cache hcache
      have hmore : cache.occurrences address state ≤ larger.occurrences address state :=
        hrecords.countP_le _
      rw [← hid]
      exact ⟨_, hmore, .duplicate hlarger hstate hinvariant (Nat.le_trans htwice hmore)⟩

/-- For each violation there is one of the same cache in the larger snapshot. -/
theorem Violates.exists_of_isPartOf {violation : Violation} (h : snapshot.Violates violation) :
    ∃ other, whole.Violates other ∧ other.cache = violation.cache := by
  obtain ⟨invariant, id, address, state, kind⟩ := violation
  cases kind with
  | duplicate occurrences =>
      obtain ⟨more, -, hmore⟩ := h.duplicate_of_isPartOf hpart
      exact ⟨_, hmore, rfl⟩
  | conflict peer peerState => exact ⟨_, h.conflict_of_isPartOf hpart, rfl⟩

/-! ## What a check reports -/

theorem isClean_of_isPartOf (mode : Mode)
    (hclean : (whole.check Protocol.mesi.rules mode).isClean = true) :
    (snapshot.check Protocol.mesi.rules mode).isClean = true := by
  have hexhaustive (h : (whole.check Protocol.mesi.rules .exhaustive).isClean = true) :
      (snapshot.check Protocol.mesi.rules .exhaustive).isClean = true := by
    rw [Report.isClean_iff, List.eq_nil_iff_forall_not_mem] at h ⊢
    intro violation hviolation
    obtain ⟨other, hother, -⟩ :=
      (mem_violations_check_mesi.mp hviolation).exists_of_isPartOf hpart
    exact h other (mem_violations_check_mesi.mpr hother)
  cases mode with
  | exhaustive => exact hexhaustive hclean
  | failFast =>
      rw [isClean_check_failFast] at hclean ⊢
      exact hexhaustive hclean

theorem cachePassed_of_isPartOf {id : CacheId}
    (hpassed : (whole.check Protocol.mesi.rules .exhaustive).cachePassed id = true) :
    (snapshot.check Protocol.mesi.rules .exhaustive).cachePassed id = true := by
  rw [cachePassed_check_exhaustive_iff Protocol.nodup_invariants_mesi, Report.violationsOf,
    List.filter_eq_nil_iff] at hpassed ⊢
  intro violation hviolation hid
  obtain ⟨other, hother, hsame⟩ :=
    (mem_violations_check_mesi.mp hviolation).exists_of_isPartOf hpart
  refine hpassed other (mem_violations_check_mesi.mpr hother) ?_
  rwa [hsame]

end IsPartOf

/-- An exhaustive check of a larger snapshot reports every conflict again, and every duplicate
with at least as many occurrences.  So when the larger one is clean the smaller one is, and what
passes in the larger one passes in the smaller one. -/
theorem check_of_isPartOf {snapshot whole : Snapshot} (hpart : snapshot.IsPartOf whole) :
    let report := snapshot.check Protocol.mesi.rules .exhaustive
    let larger := whole.check Protocol.mesi.rules .exhaustive
    (∀ violation ∈ report.violations,
      (∃ peer state, violation.kind = .conflict peer state) → violation ∈ larger.violations) ∧
    (∀ (invariant : Invariant) (cache : CacheId) (address : Address) (state : LineState)
      (occurrences : Nat),
      (⟨invariant, cache, address, state, .duplicate occurrences⟩ : Violation) ∈
          report.violations →
        ∃ more, occurrences ≤ more ∧
          (⟨invariant, cache, address, state, .duplicate more⟩ : Violation) ∈
            larger.violations) ∧
    (∀ mode, (whole.check Protocol.mesi.rules mode).isClean = true →
      (snapshot.check Protocol.mesi.rules mode).isClean = true) ∧
    ∀ id, larger.cachePassed id = true → report.cachePassed id = true := by
  intro report larger
  refine ⟨?_, ?_, isClean_of_isPartOf hpart, fun id => cachePassed_of_isPartOf hpart⟩
  · rintro ⟨invariant, cache, address, state, _⟩ hviolation ⟨peer, peerState, rfl⟩
    have hviolates := mem_violations_check_mesi.mp hviolation
    exact mem_violations_check_mesi.mpr (hviolates.conflict_of_isPartOf hpart)
  · intro invariant cache address state occurrences hviolation
    have hviolates := mem_violations_check_mesi.mp hviolation
    obtain ⟨more, hle, hmore⟩ := hviolates.duplicate_of_isPartOf hpart
    exact ⟨more, hle, mem_violations_check_mesi.mpr hmore⟩

/-- A third occurrence and an empty cache come in, and the owner of the address moves to the
front. -/
theorem check_of_isPartOf_third_occurrence :
    let snapshot : Snapshot :=
      ⟨[⟨⟨4⟩, [⟨0, 1, 0, .shared⟩, ⟨0, 1, 5, .shared⟩]⟩, ⟨⟨9⟩, [⟨0, 1, 1, .modified⟩]⟩],
        by decide⟩
    let whole : Snapshot :=
      ⟨[⟨⟨9⟩, [⟨0, 1, 1, .modified⟩]⟩, ⟨⟨2⟩, []⟩,
        ⟨⟨4⟩, [⟨0, 1, 5, .shared⟩, ⟨0, 1, 7, .shared⟩, ⟨0, 1, 0, .shared⟩]⟩], by decide⟩
    let duplicate (occurrences : Nat) : Violation :=
      ⟨.shared, ⟨4⟩, ⟨1, 0⟩, .shared, .duplicate occurrences⟩
    let conflict : Violation := ⟨.shared, ⟨4⟩, ⟨1, 0⟩, .shared, .conflict ⟨9⟩ .modified⟩
    let report := snapshot.check Protocol.mesi.rules .exhaustive
    let larger := whole.check Protocol.mesi.rules .exhaustive
    snapshot.IsPartOf whole ∧
      (duplicate 2 ∈ report.violations ∧ ∃ more, 2 ≤ more ∧ duplicate more ∈ larger.violations) ∧
      conflict ∈ report.violations ∧ conflict ∈ larger.violations := by
  intro snapshot whole duplicate conflict report larger
  have hpart : snapshot.IsPartOf whole := by decide
  have hduplicate : duplicate 2 ∈ report.violations := by decide
  have hconflict : conflict ∈ report.violations := by decide
  obtain ⟨hconflicts, hduplicates, -⟩ := check_of_isPartOf hpart
  exact ⟨hpart, ⟨hduplicate, hduplicates _ _ _ _ _ hduplicate⟩, hconflict,
    hconflicts conflict hconflict ⟨_, _, rfl⟩⟩

end Snapshot

end CacheCoherence
