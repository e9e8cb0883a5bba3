import CacheCoherence.Coherence.Index
import CacheCoherence.Coherence.Violation

/-!
# What a rule finds

With one cache as the subject, a rule finds a list of violations: first the
duplicates, for the addresses that the subject lists more than once in the
rule's state, then the conflicts, peer by peer in the order of the snapshot,
within a peer by the order of the forbidden states, and within a state by the
order in which the subject first listed the addresses.

A rule looks into the indexes of the caches only.  What it reads there is said by
`Cache.addressesIn_eq` and `Rule.conflictsIn_eq`, and which violations it finds, without
the order, by `Rule.mem_duplicates_iff` and `Rule.mem_conflicts_iff`.
-/

namespace CacheCoherence

namespace Cache

/-- The index of the records of a cache. -/
def index (cache : Cache) : CacheIndex :=
  .build cache.records

/-- The addresses that a cache lists in a state, in order and with repetitions. -/
def addressesIn (cache : Cache) (state : LineState) : List Address :=
  cache.index.listed state

/-- The addresses that a cache lists in a state, each at its first occurrence. -/
def heldIn (cache : Cache) (state : LineState) : List Address :=
  (cache.addressesIn state).eraseDups

/-- The addresses that a cache lists in a state are those of its valid lines in this state. -/
theorem addressesIn_eq (cache : Cache) (state : LineState) :
    cache.addressesIn state =
      (cache.records.filter fun record => record.state = state && record.state.isValid).map
        Record.address :=
  CacheIndex.listed_build cache.records state

theorem addressesIn_invalid (cache : Cache) : cache.addressesIn .invalid = [] :=
  CacheIndex.listed_build_invalid cache.records

theorem addressesIn_of_isValid
    (cache : Cache) {state : LineState} (hstate : state.isValid = true) :
    cache.addressesIn state =
      (cache.records.filter fun record => record.state = state).map Record.address := by
  rw [addressesIn_eq]
  congr 1
  refine List.filter_congr fun record _ => ?_
  by_cases hrecord : record.state = state
  · rw [hrecord, hstate, Bool.and_true]
  · rw [decide_eq_false hrecord, Bool.false_and]

theorem mem_heldIn_iff {cache : Cache} {state : LineState} {address : Address} :
    address ∈ cache.heldIn state ↔ address ∈ cache.addressesIn state :=
  List.mem_eraseDups

end Cache

theorem nodup_eraseDups (addresses : List Address) : addresses.eraseDups.Nodup := by
  match addresses with
  | [] => exact List.nodup_nil
  | address :: rest =>
    rw [List.eraseDups_cons, List.nodup_cons, List.mem_eraseDups]
    exact ⟨by simp, nodup_eraseDups (rest.filter fun other => !other == address)⟩
termination_by addresses.length
decreasing_by exact Nat.lt_succ_of_le (List.length_filter_le _ _)

theorem Cache.nodup_heldIn (cache : Cache) (state : LineState) :
    (cache.heldIn state).Nodup :=
  nodup_eraseDups _

namespace Rule

/-- The addresses that the subject lists more than once in the rule's state. -/
def duplicates (rule : Rule) (cache : Cache) : List Violation :=
  let listed := cache.addressesIn rule.subject
  (listed.eraseDups.filter fun address => 1 < listed.count address).map fun address =>
    ⟨rule.invariant, cache.id, address, rule.subject, .duplicate (listed.count address)⟩

/-- The addresses, among those that the subject holds, which the peer holds in one
forbidden state. -/
def conflictsIn (rule : Rule) (subject : CacheId) (held : List Address) (peer : Cache)
    (state : LineState) : List Violation :=
  let index := peer.index
  (held.filter (index.holds state)).map fun address =>
    ⟨rule.invariant, subject, address, rule.subject, .conflict peer.id state⟩

def conflictsWith (rule : Rule) (subject : CacheId) (held : List Address) (peer : Cache) :
    List Violation :=
  rule.forbidden.flatMap (rule.conflictsIn subject held peer)

/-- The conflicts of the subject with all other caches of a snapshot. -/
def conflicts (rule : Rule) (snapshot : Snapshot) (cache : Cache) : List Violation :=
  let held := cache.heldIn rule.subject
  (snapshot.caches.filter fun peer => peer.id ≠ cache.id).flatMap
    (rule.conflictsWith cache.id held)

/-- Everything that a rule finds with a cache as the subject. -/
def findings (rule : Rule) (snapshot : Snapshot) (cache : Cache) : List Violation :=
  rule.duplicates cache ++ rule.conflicts snapshot cache

theorem conflictsIn_eq
    (rule : Rule) (subject : CacheId) (held : List Address) (peer : Cache) (state : LineState) :
    rule.conflictsIn subject held peer state =
      (held.filter fun address => address ∈ peer.addressesIn state).map fun address =>
        ⟨rule.invariant, subject, address, rule.subject, .conflict peer.id state⟩ := by
  rw [conflictsIn]
  congr 1
  refine List.filter_congr fun address _ => ?_
  rw [Bool.eq_iff_iff, CacheIndex.holds_eq_true_iff, decide_eq_true_iff]
  rfl

theorem mem_duplicates_iff {rule : Rule} {cache : Cache} {violation : Violation} :
    violation ∈ rule.duplicates cache ↔
      ∃ address, 1 < (cache.addressesIn rule.subject).count address ∧
        violation = ⟨rule.invariant, cache.id, address, rule.subject,
          .duplicate ((cache.addressesIn rule.subject).count address)⟩ := by
  simp only [duplicates, List.mem_map, List.mem_filter, List.mem_eraseDups, decide_eq_true_eq]
  constructor
  · rintro ⟨address, ⟨-, hcount⟩, rfl⟩
    exact ⟨address, hcount, rfl⟩
  · rintro ⟨address, hcount, rfl⟩
    exact ⟨address, ⟨List.count_pos_iff.1 (by omega), hcount⟩, rfl⟩

theorem mem_conflicts_iff {rule : Rule} {snapshot : Snapshot} {cache : Cache}
    {violation : Violation} :
    violation ∈ rule.conflicts snapshot cache ↔
      ∃ peer ∈ snapshot.caches, peer.id ≠ cache.id ∧
        ∃ state ∈ rule.forbidden, ∃ address ∈ cache.addressesIn rule.subject,
          address ∈ peer.addressesIn state ∧
            violation = ⟨rule.invariant, cache.id, address, rule.subject,
              .conflict peer.id state⟩ := by
  simp only [conflicts, conflictsWith, conflictsIn_eq, List.mem_flatMap, List.mem_filter,
    List.mem_map, Cache.mem_heldIn_iff, decide_eq_true_eq, and_assoc]
  constructor
  · rintro ⟨peer, hpeer, hne, state, hstate, address, haddress, hheld, rfl⟩
    exact ⟨peer, hpeer, hne, state, hstate, address, haddress, hheld, rfl⟩
  · rintro ⟨peer, hpeer, hne, state, hstate, address, haddress, hheld, rfl⟩
    exact ⟨peer, hpeer, hne, state, hstate, address, haddress, hheld, rfl⟩

end Rule

end CacheCoherence
