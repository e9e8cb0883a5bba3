import CacheCoherence.Coherence.Check
import Mathlib.Data.List.Nodup

/-!
# The violations of an exhaustive check

A violation is first described by what the caches of a snapshot list, without
reference to rules, indexes or the order of a search.  The list that an
exhaustive check reports is then shown to hold exactly these violations, each of
them once.

Absence of repetition is proved for every table of rules, and membership for rules that
speak of valid states, since lines without a copy are not indexed.  The protocol enters only
through a few facts on its table.
-/

namespace CacheCoherence

/-! ## What a cache lists -/

/-- A cache has a record of an address in a state. -/
def Cache.Lists (cache : Cache) (address : Address) (state : LineState) : Prop :=
  ∃ record ∈ cache.records, record.address = address ∧ record.state = state

/-- The number of records that a cache has of an address in a state. -/
def Cache.occurrences (cache : Cache) (address : Address) (state : LineState) : Nat :=
  cache.records.countP fun record => record.address = address ∧ record.state = state

theorem Cache.mem_addressesIn_iff_lists
    {cache : Cache} {address : Address} {state : LineState} (hstate : state.isValid = true) :
    address ∈ cache.addressesIn state ↔ cache.Lists address state := by
  rw [cache.addressesIn_of_isValid hstate, List.mem_map]
  constructor
  · rintro ⟨record, hlisted, haddress⟩
    obtain ⟨hrecord, hheld⟩ := List.mem_filter.mp hlisted
    exact ⟨record, hrecord, haddress, of_decide_eq_true hheld⟩
  · rintro ⟨record, hrecord, haddress, hheld⟩
    exact ⟨record, List.mem_filter.mpr ⟨hrecord, decide_eq_true hheld⟩, haddress⟩

theorem Cache.count_addressesIn
    (cache : Cache) (address : Address) {state : LineState} (hstate : state.isValid = true) :
    (cache.addressesIn state).count address = cache.occurrences address state := by
  rw [cache.addressesIn_of_isValid hstate, List.count_eq_countP, List.countP_map,
    List.countP_filter, occurrences]
  apply List.countP_congr
  intro record _
  simp

/-! ## The invariant of a state -/

/-- The state in which an invariant finds the address at its subject. -/
def Invariant.subject : Invariant → LineState
  | modified => .modified
  | exclusive => .exclusive
  | shared => .shared

theorem Invariant.isValid_subject (invariant : Invariant) :
    invariant.subject.isValid = true := by
  cases invariant <;> rfl

theorem LineState.exists_invariant
    {state : LineState} (hstate : state.isValid = true) :
    ∃ invariant : Invariant, invariant.subject = state := by
  cases state with
  | modified => exact ⟨.modified, rfl⟩
  | exclusive => exact ⟨.exclusive, rfl⟩
  | shared => exact ⟨.shared, rfl⟩
  | invalid => cases hstate

/-- A rule that speaks of valid states only. -/
structure Rule.IsObservable (rule : Rule) : Prop where
  subject : rule.subject.isValid = true
  forbidden : ∀ state ∈ rule.forbidden, state.isValid = true

namespace Protocol

theorem subject_of_mem_mesi {rule : Rule} (hrule : rule ∈ mesi.rules) :
    rule.subject = rule.invariant.subject := by
  simp only [rules, List.mem_cons, List.not_mem_nil, or_false] at hrule
  rcases hrule with rfl | rfl | rfl <;> rfl

/-- A rule forbids every valid state, except that shared copies may exist
together. -/
theorem mem_forbidden_mesi_iff
    {rule : Rule} (hrule : rule ∈ mesi.rules) {state : LineState} :
    state ∈ rule.forbidden ↔
      state.isValid = true ∧ ¬(rule.subject = .shared ∧ state = .shared) := by
  simp only [rules, List.mem_cons, List.not_mem_nil, or_false] at hrule
  rcases hrule with rfl | rfl | rfl <;> cases state <;> decide

theorem isObservable_of_mem_mesi {rule : Rule} (hrule : rule ∈ mesi.rules) :
    rule.IsObservable := by
  constructor
  · rw [subject_of_mem_mesi hrule]
    exact rule.invariant.isValid_subject
  · intro state hstate
    exact ((mem_forbidden_mesi_iff hrule).mp hstate).1

theorem exists_rule_mesi (invariant : Invariant) :
    ∃ rule ∈ mesi.rules, rule.invariant = invariant := by
  cases invariant <;> simp [rules]

theorem nodup_invariants_mesi : (mesi.rules.map Rule.invariant).Nodup := by
  decide

theorem nodup_forbidden_mesi {rule : Rule} (hrule : rule ∈ mesi.rules) :
    rule.forbidden.Nodup := by
  simp only [rules, List.mem_cons, List.not_mem_nil, or_false] at hrule
  rcases hrule with rfl | rfl | rfl <;> decide

end Protocol

/-! ## Violations of a snapshot -/

/-- The violations that a snapshot has under the law that a modified or exclusive
copy is the only copy and that no cache lists an address twice in one state. -/
inductive Snapshot.Violates (snapshot : Snapshot) : Violation → Prop
  | duplicate {invariant : Invariant} {cache : Cache} {address : Address}
      {state : LineState}
      (hcache : cache ∈ snapshot.caches)
      (hstate : state.isValid = true) (hinvariant : invariant.subject = state)
      (htwice : 2 ≤ cache.occurrences address state) :
      snapshot.Violates ⟨invariant, cache.id, address, state,
        .duplicate (cache.occurrences address state)⟩
  | conflict {invariant : Invariant} {cache peer : Cache} {address : Address}
      {state peerState : LineState}
      (hcache : cache ∈ snapshot.caches) (hpeer : peer ∈ snapshot.caches)
      (hne : peer.id ≠ cache.id)
      (hlists : cache.Lists address state) (hpeerLists : peer.Lists address peerState)
      (hstate : state.isValid = true) (hpeerState : peerState.isValid = true)
      (hshared : ¬(state = .shared ∧ peerState = .shared))
      (hinvariant : invariant.subject = state) :
      snapshot.Violates ⟨invariant, cache.id, address, state,
        .conflict peer.id peerState⟩

/-! ## The reported list -/

theorem Snapshot.violations_check_exhaustive (snapshot : Snapshot) (rules : List Rule) :
    (snapshot.check rules .exhaustive).violations =
      snapshot.caches.flatMap fun cache =>
        rules.flatMap fun rule => rule.findings snapshot cache := by
  simp only [check, evaluations, Mode.evaluate, evaluateAll, tasks, List.map_flatMap,
    List.map_map, List.flatMap_assoc, List.flatMap_map]
  rfl

theorem Snapshot.mem_violations_check_exhaustive
    {snapshot : Snapshot} {rules : List Rule} {violation : Violation} :
    violation ∈ (snapshot.check rules .exhaustive).violations ↔
      ∃ cache ∈ snapshot.caches, ∃ rule ∈ rules,
        violation ∈ rule.findings snapshot cache := by
  simp only [violations_check_exhaustive, List.mem_flatMap]

theorem Rule.mem_findings_iff
    {rule : Rule} (hrule : rule.IsObservable) {snapshot : Snapshot} {cache : Cache}
    {violation : Violation} :
    violation ∈ rule.findings snapshot cache ↔
      (∃ address, 2 ≤ cache.occurrences address rule.subject ∧
        violation = ⟨rule.invariant, cache.id, address, rule.subject,
          .duplicate (cache.occurrences address rule.subject)⟩) ∨
      ∃ peer ∈ snapshot.caches, peer.id ≠ cache.id ∧
        ∃ state ∈ rule.forbidden, ∃ address, cache.Lists address rule.subject ∧
          peer.Lists address state ∧
            violation = ⟨rule.invariant, cache.id, address, rule.subject,
              .conflict peer.id state⟩ := by
  rw [findings, List.mem_append, mem_duplicates_iff, mem_conflicts_iff]
  refine or_congr ?_ ?_
  · simp only [cache.count_addressesIn _ hrule.subject]
    rfl
  · refine exists_congr fun peer => and_congr_right fun _ => and_congr_right fun _ => ?_
    refine exists_congr fun state => and_congr_right fun hstate => ?_
    simp only [Cache.mem_addressesIn_iff_lists hrule.subject,
      Cache.mem_addressesIn_iff_lists (hrule.forbidden state hstate)]

/-- With the table of the protocol, the reported violations are those that the
snapshot has. -/
theorem Snapshot.mem_violations_check_mesi
    {snapshot : Snapshot} {violation : Violation} :
    violation ∈ (snapshot.check Protocol.mesi.rules .exhaustive).violations ↔
      snapshot.Violates violation := by
  rw [mem_violations_check_exhaustive]
  constructor
  · rintro ⟨cache, hcache, rule, hrule, hfound⟩
    have hsubject := Protocol.subject_of_mem_mesi hrule
    have hobservable := Protocol.isObservable_of_mem_mesi hrule
    have hstate : rule.subject.isValid = true := hobservable.subject
    rcases (Rule.mem_findings_iff hobservable).mp hfound with
      ⟨address, htwice, rfl⟩ |
      ⟨peer, hpeer, hne, state, hforbidden, address, hlists, hpeerLists, rfl⟩
    · exact .duplicate hcache hstate hsubject.symm htwice
    · obtain ⟨hpeerState, hshared⟩ :=
        (Protocol.mem_forbidden_mesi_iff hrule).mp hforbidden
      exact .conflict hcache hpeer hne hlists hpeerLists hstate hpeerState hshared
        hsubject.symm
  · intro hviolates
    obtain ⟨rule, hrule, hinvariant⟩ := Protocol.exists_rule_mesi violation.invariant
    have hobservable := Protocol.isObservable_of_mem_mesi hrule
    have hsubject := Protocol.subject_of_mem_mesi hrule
    rw [hinvariant] at hsubject
    cases hviolates with
    | @duplicate invariant cache address state hcache hstate hinv htwice =>
        have hsame : rule.subject = state := hsubject.trans hinv
        refine ⟨cache, hcache, rule, hrule, (Rule.mem_findings_iff hobservable).mpr (Or.inl ?_)⟩
        subst hsame hinvariant
        exact ⟨address, htwice, rfl⟩
    | @conflict invariant cache peer address state peerState hcache hpeer hne hlists
        hpeerLists hstate hpeerState hshared hinv =>
        have hsame : rule.subject = state := hsubject.trans hinv
        refine ⟨cache, hcache, rule, hrule, (Rule.mem_findings_iff hobservable).mpr (Or.inr ?_)⟩
        subst hsame hinvariant
        have hforbidden : peerState ∈ rule.forbidden :=
          (Protocol.mem_forbidden_mesi_iff hrule).mpr ⟨hpeerState, hshared⟩
        exact ⟨peer, hpeer, hne, peerState, hforbidden, address, hlists, hpeerLists, rfl⟩

/-! ## No violation is repeated -/

/-- A list that is collected part by part has no repetition when its sources and
parts have none and each element tells its source. -/
theorem nodup_flatMap_of_source
    {α β : Type} {sources : List α} {part : α → List β}
    (hsources : sources.Nodup) (hparts : ∀ a ∈ sources, (part a).Nodup)
    (hsource : ∀ a ∈ sources, ∀ a' ∈ sources, ∀ b ∈ part a, b ∈ part a' → a = a') :
    (sources.flatMap part).Nodup := by
  refine List.nodup_flatMap.mpr ⟨hparts, hsources.pairwise_of_forall_ne ?_⟩
  intro a ha a' ha' hne b hb hb'
  exact hne (hsource a ha a' ha' b hb hb')

theorem Snapshot.nodup_caches (snapshot : Snapshot) : snapshot.caches.Nodup :=
  snapshot.nodup_ids.of_map

namespace Rule

theorem nodup_duplicates (rule : Rule) (cache : Cache) : (rule.duplicates cache).Nodup := by
  refine ((nodup_eraseDups _).filter _).map ?_
  intro address other heq
  exact congrArg Violation.address heq

theorem nodup_conflictsIn
    (rule : Rule) (subject : CacheId) {held : List Address} (hheld : held.Nodup)
    (peer : Cache) (state : LineState) :
    (rule.conflictsIn subject held peer state).Nodup := by
  refine (hheld.filter _).map ?_
  intro address other heq
  exact congrArg Violation.address heq

theorem kind_of_mem_conflictsIn
    {rule : Rule} {subject : CacheId} {held : List Address} {peer : Cache}
    {state : LineState} {violation : Violation}
    (hmem : violation ∈ rule.conflictsIn subject held peer state) :
    violation.kind = .conflict peer.id state := by
  obtain ⟨address, -, rfl⟩ := List.mem_map.mp hmem
  rfl

theorem eq_of_mem_conflictsWith
    {rule : Rule} {subject : CacheId} {held : List Address} {peer : Cache}
    {violation : Violation} (hmem : violation ∈ rule.conflictsWith subject held peer) :
    ∃ address state,
      violation = ⟨rule.invariant, subject, address, rule.subject, .conflict peer.id state⟩ := by
  obtain ⟨state, -, hstate⟩ := List.mem_flatMap.mp hmem
  obtain ⟨address, -, rfl⟩ := List.mem_map.mp hstate
  exact ⟨address, state, rfl⟩

theorem nodup_conflictsWith
    {rule : Rule} (hforbidden : rule.forbidden.Nodup) (subject : CacheId)
    {held : List Address} (hheld : held.Nodup) (peer : Cache) :
    (rule.conflictsWith subject held peer).Nodup := by
  refine nodup_flatMap_of_source hforbidden
    (fun state _ => rule.nodup_conflictsIn subject hheld peer state) ?_
  intro state _ other _ violation hstate hother
  have hkind := (kind_of_mem_conflictsIn hstate).symm.trans (kind_of_mem_conflictsIn hother)
  exact (Violation.Kind.conflict.inj hkind).2

theorem nodup_conflicts
    {rule : Rule} (hforbidden : rule.forbidden.Nodup) (snapshot : Snapshot)
    (cache : Cache) : (rule.conflicts snapshot cache).Nodup := by
  refine nodup_flatMap_of_source (snapshot.nodup_caches.filter _)
    (fun peer _ => nodup_conflictsWith hforbidden cache.id (cache.nodup_heldIn _) peer) ?_
  intro peer hpeer other hother violation hviolation hviolation'
  obtain ⟨address, state, rfl⟩ := eq_of_mem_conflictsWith hviolation
  obtain ⟨address', state', heq⟩ := eq_of_mem_conflictsWith hviolation'
  have hkind := congrArg Violation.kind heq
  exact Snapshot.eq_of_id_eq (List.mem_of_mem_filter hpeer) (List.mem_of_mem_filter hother)
    (Violation.Kind.conflict.inj hkind).1

theorem nodup_findings
    {rule : Rule} (hforbidden : rule.forbidden.Nodup) (snapshot : Snapshot)
    (cache : Cache) : (rule.findings snapshot cache).Nodup := by
  refine List.nodup_append'.mpr
    ⟨rule.nodup_duplicates cache, nodup_conflicts hforbidden snapshot cache, ?_⟩
  intro violation hduplicate hconflict
  obtain ⟨address, -, rfl⟩ := mem_duplicates_iff.mp hduplicate
  obtain ⟨peer, -, -, state, -, address', -, -, heq⟩ := mem_conflicts_iff.mp hconflict
  cases congrArg Violation.kind heq

/-- What a rule finds with a cache as the subject is of this rule and of this cache. -/
theorem eq_of_mem_findings
    {rule : Rule} {snapshot : Snapshot} {cache : Cache} {violation : Violation}
    (hmem : violation ∈ rule.findings snapshot cache) :
    ∃ address kind, violation = ⟨rule.invariant, cache.id, address, rule.subject, kind⟩ := by
  rcases List.mem_append.mp hmem with hduplicate | hconflict
  · obtain ⟨address, -, rfl⟩ := mem_duplicates_iff.mp hduplicate
    exact ⟨address, _, rfl⟩
  · obtain ⟨peer, -, -, state, -, address, -, -, rfl⟩ := mem_conflicts_iff.mp hconflict
    exact ⟨address, _, rfl⟩

theorem cache_of_mem_findings
    {rule : Rule} {snapshot : Snapshot} {cache : Cache} {violation : Violation}
    (hmem : violation ∈ rule.findings snapshot cache) : violation.cache = cache.id := by
  obtain ⟨address, kind, rfl⟩ := eq_of_mem_findings hmem
  rfl

theorem invariant_of_mem_findings
    {rule : Rule} {snapshot : Snapshot} {cache : Cache} {violation : Violation}
    (hmem : violation ∈ rule.findings snapshot cache) :
    violation.invariant = rule.invariant := by
  obtain ⟨address, kind, rfl⟩ := eq_of_mem_findings hmem
  rfl

end Rule

/-- No violation is reported twice, when the table has one rule for an invariant
and names no forbidden state twice. -/
theorem Snapshot.nodup_violations_check_exhaustive
    (snapshot : Snapshot) {rules : List Rule}
    (hrules : (rules.map Rule.invariant).Nodup)
    (hforbidden : ∀ rule ∈ rules, rule.forbidden.Nodup) :
    (snapshot.check rules .exhaustive).violations.Nodup := by
  rw [violations_check_exhaustive]
  refine nodup_flatMap_of_source snapshot.nodup_caches ?_ ?_
  · intro cache _
    refine nodup_flatMap_of_source hrules.of_map
      (fun rule hrule => Rule.nodup_findings (hforbidden rule hrule) snapshot cache) ?_
    intro rule hrule other hother violation hfound hfound'
    exact List.inj_on_of_nodup_map hrules hrule hother
      ((Rule.invariant_of_mem_findings hfound).symm.trans
        (Rule.invariant_of_mem_findings hfound'))
  · intro cache hcache other hother violation hfound hfound'
    obtain ⟨rule, -, hfound⟩ := List.mem_flatMap.mp hfound
    obtain ⟨rule', -, hfound'⟩ := List.mem_flatMap.mp hfound'
    exact eq_of_id_eq hcache hother
      ((Rule.cache_of_mem_findings hfound).symm.trans (Rule.cache_of_mem_findings hfound'))

/-- An exhaustive check reports each violation of the snapshot exactly once, and
nothing else. -/
theorem Snapshot.exhaustive_reports_violations_once
    (snapshot : Snapshot) (violation : Violation) :
    let reported := (snapshot.check Protocol.mesi.rules .exhaustive).violations
    (reported.count violation = 1 ↔ snapshot.Violates violation) ∧
      (reported.count violation = 0 ↔ ¬snapshot.Violates violation) := by
  intro reported
  have hnodup : reported.Nodup :=
    snapshot.nodup_violations_check_exhaustive Protocol.nodup_invariants_mesi
      fun _ hrule => Protocol.nodup_forbidden_mesi hrule
  have hmem : violation ∈ reported ↔ snapshot.Violates violation := mem_violations_check_mesi
  constructor
  · rw [← hmem]
    constructor
    · intro hcount
      exact List.count_pos_iff.mp (by omega)
    · exact List.count_eq_one_of_mem hnodup
  · rw [← hmem]
    exact List.count_eq_zero

end CacheCoherence
