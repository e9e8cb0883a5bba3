import CacheCoherence.Proofs.Coherence.FailFast
import CacheCoherence.Proofs.Coherence.Violations
import CacheCoherence.Proofs.Parts
import Mathlib.Data.List.Forall2
import Mathlib.Data.List.Perm.Basic

/-!
# Snapshots in another order

The order of a snapshot, of its caches and of the records in each of them, decides in which
order a check finds violations, and nothing else.  Every rule finds the same violations at
the same cache, so that an exhaustive check gives every cache the same outcomes and the
same verdict.

A run that fails fast still finds something or nothing in both orders.  What it finds first
can be a different violation.
-/

namespace CacheCoherence

/-- The cache with its records in another order. -/
structure Cache.Reordered (cache other : Cache) : Prop where
  id_eq : cache.id = other.id
  records_perm : cache.records.Perm other.records

/-- The caches in another order, with the records of each in another order. -/
def Cache.AllReordered (caches others : List Cache) : Prop :=
  ∃ middle, List.Forall₂ Cache.Reordered caches middle ∧ middle.Perm others

/-- The snapshots differ in the order of their caches and of the records inside them only. -/
def Snapshot.Reordered (snapshot other : Snapshot) : Prop :=
  Cache.AllReordered snapshot.caches other.caches

/-! ## Reordered caches -/

namespace Cache

theorem AllReordered.filter
    {caches others : List Cache} (h : AllReordered caches others) (p : CacheId → Bool) :
    AllReordered (caches.filter fun cache => p cache.id)
      (others.filter fun cache => p cache.id) := by
  obtain ⟨middle, hsame, hperm⟩ := h
  refine ⟨middle.filter fun cache => p cache.id, ?_, hperm.filter _⟩
  refine List.rel_filter (fun cache other hreordered => ?_) hsame
  change p cache.id = true ↔ p other.id = true
  rw [hreordered.id_eq]

theorem AllReordered.flatMap_perm
    {β : Type} {caches others : List Cache} (h : AllReordered caches others)
    {part other : Cache → List β}
    (hparts : ∀ cache reordered, cache.Reordered reordered →
      (part cache).Perm (other reordered)) :
    (caches.flatMap part).Perm (others.flatMap other) := by
  obtain ⟨middle, hsame, hperm⟩ := h
  exact (perm_flatMap_of_forall₂ hparts hsame).trans (hperm.flatMap_right other)

namespace Reordered

variable {cache other : Cache}

theorem addressesIn_perm (h : cache.Reordered other) (state : LineState) :
    (cache.addressesIn state).Perm (other.addressesIn state) := by
  rw [addressesIn_eq, addressesIn_eq]
  exact (h.records_perm.filter _).map _

theorem heldIn_perm (h : cache.Reordered other) (state : LineState) :
    (cache.heldIn state).Perm (other.heldIn state) := by
  refine (List.perm_ext_iff_of_nodup (cache.nodup_heldIn state) (other.nodup_heldIn state)).mpr
    fun address => ?_
  rw [mem_heldIn_iff, mem_heldIn_iff]
  exact (h.addressesIn_perm state).mem_iff

end Reordered

end Cache

/-! ## What a rule finds -/

namespace Rule

theorem duplicates_perm
    (rule : Rule) {cache other : Cache} (h : cache.Reordered other) :
    (rule.duplicates cache).Perm (rule.duplicates other) := by
  have hcount : ∀ address, (cache.addressesIn rule.subject).count address =
      (other.addressesIn rule.subject).count address :=
    fun address => (h.addressesIn_perm rule.subject).count_eq address
  rw [duplicates, duplicates]
  simp only [hcount, h.id_eq]
  exact ((h.heldIn_perm rule.subject).filter _).map _

theorem conflictsIn_perm
    (rule : Rule) (subject : CacheId) {held others : List Address} (hheld : held.Perm others)
    {peer other : Cache} (h : peer.Reordered other) (state : LineState) :
    (rule.conflictsIn subject held peer state).Perm
      (rule.conflictsIn subject others other state) := by
  have hmem : ∀ address, address ∈ peer.addressesIn state ↔ address ∈ other.addressesIn state :=
    fun address => (h.addressesIn_perm state).mem_iff
  rw [conflictsIn_eq, conflictsIn_eq]
  simp only [hmem, h.id_eq]
  exact (hheld.filter _).map _

theorem conflictsWith_perm
    (rule : Rule) (subject : CacheId) {held others : List Address} (hheld : held.Perm others)
    {peer other : Cache} (h : peer.Reordered other) :
    (rule.conflictsWith subject held peer).Perm (rule.conflictsWith subject others other) :=
  List.Perm.flatMap_left _ fun state _ => rule.conflictsIn_perm subject hheld h state

theorem conflicts_perm
    (rule : Rule) {snapshot reordered : Snapshot} (hsnapshot : snapshot.Reordered reordered)
    {cache other : Cache} (hcache : cache.Reordered other) :
    (rule.conflicts snapshot cache).Perm (rule.conflicts reordered other) := by
  have hheld := hcache.heldIn_perm rule.subject
  rw [conflicts, conflicts, hcache.id_eq]
  exact (hsnapshot.filter fun id => id ≠ other.id).flatMap_perm fun peer reorderedPeer hpeer =>
    rule.conflictsWith_perm other.id hheld hpeer

/-- A rule finds the same violations in both orders. -/
theorem findings_perm
    (rule : Rule) {snapshot reordered : Snapshot} (hsnapshot : snapshot.Reordered reordered)
    {cache other : Cache} (hcache : cache.Reordered other) :
    (rule.findings snapshot cache).Perm (rule.findings reordered other) :=
  (rule.duplicates_perm hcache).append (rule.conflicts_perm hsnapshot hcache)

end Rule

/-! ## Outcomes -/

theorem Evaluation.verdict_eq_of_perm
    {task other : Task} {kept others : List Violation} (h : kept.Perm others) :
    verdict ⟨task, some kept⟩ = verdict ⟨other, some others⟩ := by
  cases kept with
  | nil =>
      rw [← h.nil_eq]
      rfl
  | cons first rest =>
      cases others with
      | nil => cases h.length_eq
      | cons otherFirst otherRest => simp only [verdict, h.length_eq]

/-- The outcomes of an exhaustive check with a cache as the subject, in the order of the
rules. -/
def Snapshot.outcomesAt (snapshot : Snapshot) (rules : List Rule) (cache : Cache) :
    List Outcome :=
  rules.map fun rule => Evaluation.outcome ⟨⟨cache, rule⟩, some (rule.findings snapshot cache)⟩

theorem Snapshot.outcomesOf_check_exhaustive
    (snapshot : Snapshot) (rules : List Rule) (id : CacheId) :
    (snapshot.check rules .exhaustive).outcomesOf id =
      (snapshot.caches.filter fun cache => cache.id = id).flatMap (snapshot.outcomesAt rules) := by
  have houtcomes : (snapshot.check rules .exhaustive).outcomes =
      snapshot.caches.flatMap (snapshot.outcomesAt rules) := by
    simp only [check, evaluations, Mode.evaluate, evaluateAll, tasks, List.map_flatMap,
      List.map_map]
    rfl
  rw [Report.outcomesOf, houtcomes]
  refine filter_flatMap_of_source fun cache _ outcome houtcome => ?_
  obtain ⟨rule, -, rfl⟩ := List.mem_map.mp houtcome
  rfl

namespace Snapshot.Reordered

variable {snapshot other : Snapshot}

theorem violations_perm (h : snapshot.Reordered other) (rules : List Rule) :
    (snapshot.check rules .exhaustive).violations.Perm
      (other.check rules .exhaustive).violations := by
  rw [violations_check_exhaustive, violations_check_exhaustive]
  refine h.flatMap_perm fun cache reordered hcache => ?_
  exact List.Perm.flatMap_left _ fun rule _ => rule.findings_perm h hcache

theorem outcomesAt_eq
    (h : snapshot.Reordered other) (rules : List Rule) {cache reordered : Cache}
    (hcache : cache.Reordered reordered) :
    snapshot.outcomesAt rules cache = other.outcomesAt rules reordered := by
  refine List.map_congr_left fun rule _ => ?_
  rw [Evaluation.outcome, Evaluation.outcome,
    Evaluation.verdict_eq_of_perm (rule.findings_perm h hcache), hcache.id_eq]

/-- A snapshot has at most one cache of an identifier, so that there is no order to differ
in. -/
theorem forall₂_filter_id (h : snapshot.Reordered other) (id : CacheId) :
    List.Forall₂ Cache.Reordered (snapshot.caches.filter fun cache => cache.id = id)
      (other.caches.filter fun cache => cache.id = id) := by
  obtain ⟨middle, hsame, hperm⟩ := h.filter fun other => other = id
  by_cases hid : ∃ cache ∈ other.caches, cache.id = id
  · obtain ⟨cache, hcache, rfl⟩ := hid
    rw [filter_key_eq_singleton other.nodup_ids hcache] at hperm ⊢
    rwa [List.perm_singleton.mp hperm] at hsame
  · have hnone : (other.caches.filter fun cache => cache.id = id) = [] :=
      List.filter_eq_nil_iff.mpr fun cache hcache hself =>
        hid ⟨cache, hcache, of_decide_eq_true hself⟩
    rw [hnone] at hperm ⊢
    rwa [hperm.eq_nil] at hsame

theorem outcomesOf_eq (h : snapshot.Reordered other) (rules : List Rule) (id : CacheId) :
    (snapshot.check rules .exhaustive).outcomesOf id =
      (other.check rules .exhaustive).outcomesOf id := by
  rw [outcomesOf_check_exhaustive, outcomesOf_check_exhaustive]
  have hsame := h.forall₂_filter_id id
  generalize (snapshot.caches.filter fun cache => cache.id = id) = here at hsame ⊢
  generalize (other.caches.filter fun cache => cache.id = id) = there at hsame ⊢
  induction hsame with
  | nil => rfl
  | cons hcache _ ih => rw [List.flatMap_cons, List.flatMap_cons, h.outcomesAt_eq rules hcache, ih]

theorem isClean_failFast_eq (h : snapshot.Reordered other) (rules : List Rule) :
    (snapshot.check rules .failFast).isClean = (other.check rules .failFast).isClean := by
  rw [isClean_check_failFast, isClean_check_failFast, Report.isClean, Report.isClean]
  exact (h.violations_perm rules).isEmpty_eq

end Snapshot.Reordered

namespace Snapshot

/-- Of two owners of an address, the one that is listed first is found first. -/
theorem exists_reordered_failFast_ne :
    ∃ snapshot other : Snapshot, snapshot.Reordered other ∧
      (snapshot.check Protocol.mesi.rules .failFast).violations ≠
        (other.check Protocol.mesi.rules .failFast).violations := by
  let owner (id : UInt32) : Cache := ⟨⟨id⟩, [⟨0, 1, 0, .modified⟩]⟩
  have hsame : ∀ cache : Cache, cache.Reordered cache := fun cache => ⟨rfl, .refl _⟩
  refine ⟨⟨[owner 0, owner 1], by decide⟩, ⟨[owner 1, owner 0], by decide⟩, ?_, by decide⟩
  exact ⟨_, List.forall₂_same.mpr fun cache _ => hsame cache, List.Perm.swap _ _ _⟩

/-- An exhaustive check finds the same violations in every order of the caches and of their
records, with the same outcomes and the same verdict for every cache.  A run that fails
fast is clean in all orders or in none, and can report another violation. -/
theorem check_of_reordered :
    (∀ snapshot other : Snapshot, snapshot.Reordered other →
      let report := snapshot.check Protocol.mesi.rules .exhaustive
      let reordered := other.check Protocol.mesi.rules .exhaustive
      report.violations.Perm reordered.violations ∧
        (∀ id, report.outcomesOf id = reordered.outcomesOf id) ∧
        (∀ id, report.cacheVerdict id = reordered.cacheVerdict id) ∧
        (snapshot.check Protocol.mesi.rules .failFast).isClean =
          (other.check Protocol.mesi.rules .failFast).isClean) ∧
      ∃ snapshot other : Snapshot, snapshot.Reordered other ∧
        (snapshot.check Protocol.mesi.rules .failFast).violations ≠
          (other.check Protocol.mesi.rules .failFast).violations := by
  refine ⟨fun snapshot other h => ?_, exists_reordered_failFast_ne⟩
  intro report reordered
  have houtcomes : ∀ id, report.outcomesOf id = reordered.outcomesOf id :=
    h.outcomesOf_eq Protocol.mesi.rules
  have hverdicts : ∀ id, report.cacheVerdict id = reordered.cacheVerdict id := by
    intro id
    rw [Report.cacheVerdict, houtcomes id, Report.cacheVerdict]
  exact ⟨h.violations_perm _, houtcomes, hverdicts, h.isClean_failFast_eq _⟩

end Snapshot

end CacheCoherence
