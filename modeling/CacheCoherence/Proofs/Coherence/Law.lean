import CacheCoherence.Proofs.Coherence.FailFast
import CacheCoherence.Proofs.Coherence.Violations

/-!
# The law behind a clean report

The coherence law speaks of one address at a time and of all caches together: no
cache lists the address twice in one valid state, and a cache with a modified or
exclusive copy has all the copies there are.  A snapshot has a violation exactly
when the law fails at some address, so a clean report is equivalent to the law.
A check that stops early finds a violation whenever there is one, which carries
the equivalence over to it.
-/

namespace CacheCoherence

/-- The coherence law at one address. -/
structure Snapshot.CoherentAt (snapshot : Snapshot) (address : Address) : Prop where
  listed_once : ∀ cache ∈ snapshot.caches, ∀ state : LineState, state.isValid = true →
    cache.occurrences address state ≤ 1
  owner_alone : ∀ cache ∈ snapshot.caches,
    cache.Lists address .modified ∨ cache.Lists address .exclusive →
      ∀ other ∈ snapshot.caches, ∀ record ∈ other.records,
        record.address = address → record.state.isValid = true → other = cache

/-- The coherence law, at all addresses. -/
def Snapshot.Coherent (snapshot : Snapshot) : Prop :=
  ∀ address, snapshot.CoherentAt address

namespace Snapshot

/-- Two copies of an address in different caches are no violation only when both
are shared. -/
theorem exists_violates_of_lists
    {snapshot : Snapshot} {cache peer : Cache} {address : Address}
    {state peerState : LineState}
    (hcache : cache ∈ snapshot.caches) (hpeer : peer ∈ snapshot.caches)
    (hne : peer ≠ cache) (hlists : cache.Lists address state)
    (hpeerLists : peer.Lists address peerState)
    (hstate : state.isValid = true) (hpeerState : peerState.isValid = true)
    (hshared : ¬(state = .shared ∧ peerState = .shared)) :
    ∃ violation, snapshot.Violates violation := by
  obtain ⟨invariant, hinvariant⟩ := LineState.exists_invariant hstate
  have hid : peer.id ≠ cache.id := fun heq => hne (eq_of_id_eq hpeer hcache heq)
  exact ⟨_, .conflict hcache hpeer hid hlists hpeerLists hstate hpeerState hshared hinvariant⟩

theorem coherentAt_of_forall_not_violates
    {snapshot : Snapshot} (hnone : ∀ violation, ¬snapshot.Violates violation)
    (address : Address) : snapshot.CoherentAt address := by
  constructor
  · intro cache hcache state hstate
    by_contra htwice
    obtain ⟨invariant, hinvariant⟩ := LineState.exists_invariant hstate
    have hcount : 2 ≤ cache.occurrences address state := by omega
    exact hnone _ (.duplicate hcache hstate hinvariant hcount)
  · intro cache hcache howner other hother record hrecord haddress hvalid
    have hotherLists : other.Lists address record.state := ⟨record, hrecord, haddress, rfl⟩
    obtain ⟨state, hlists, hstate, hshared⟩ :
        ∃ state, cache.Lists address state ∧ state.isValid = true ∧ state ≠ .shared := by
      rcases howner with hlists | hlists
      · exact ⟨.modified, hlists, rfl, nofun⟩
      · exact ⟨.exclusive, hlists, rfl, nofun⟩
    by_contra hne
    obtain ⟨violation, hviolates⟩ := exists_violates_of_lists hcache hother hne hlists
      hotherLists hstate hvalid fun hboth => hshared hboth.1
    exact hnone violation hviolates

/-- In a coherent snapshot, a cache with a valid copy that is not shared has all
the valid copies. -/
theorem Coherent.eq_of_lists
    {snapshot : Snapshot} (hcoherent : snapshot.Coherent) {cache other : Cache}
    {address : Address} {state otherState : LineState}
    (hcache : cache ∈ snapshot.caches) (hother : other ∈ snapshot.caches)
    (hlists : cache.Lists address state) (hotherLists : other.Lists address otherState)
    (hstate : state.isValid = true) (hshared : state ≠ .shared)
    (hvalid : otherState.isValid = true) : other = cache := by
  have howner : cache.Lists address .modified ∨ cache.Lists address .exclusive := by
    cases state with
    | modified => exact Or.inl hlists
    | exclusive => exact Or.inr hlists
    | shared => exact absurd rfl hshared
    | invalid => cases hstate
  obtain ⟨record, hrecord, haddress, rfl⟩ := hotherLists
  exact (hcoherent address).owner_alone cache hcache howner other hother record hrecord
    haddress hvalid

theorem Coherent.not_violates
    {snapshot : Snapshot} (hcoherent : snapshot.Coherent) (violation : Violation) :
    ¬snapshot.Violates violation := by
  intro hviolates
  cases hviolates with
  | @duplicate invariant cache address state hcache hstate hinvariant htwice =>
      have honce := (hcoherent address).listed_once cache hcache state hstate
      omega
  | @conflict invariant cache peer address state peerState hcache hpeer hne hlists
      hpeerLists hstate hpeerState hshared hinvariant =>
      -- The two caches take the part of the owner in turn, as not both states are shared.
      apply hne
      by_cases howner : state = .shared
      · have hpeerOwner : peerState ≠ .shared := fun hpeerShared => hshared ⟨howner, hpeerShared⟩
        rw [hcoherent.eq_of_lists hpeer hcache hpeerLists hlists hpeerState hpeerOwner hstate]
      · rw [hcoherent.eq_of_lists hcache hpeer hlists hpeerLists hstate howner hpeerState]

theorem coherent_iff_forall_not_violates {snapshot : Snapshot} :
    snapshot.Coherent ↔ ∀ violation, ¬snapshot.Violates violation :=
  ⟨Coherent.not_violates, coherentAt_of_forall_not_violates⟩

/-- A report is clean exactly when the coherence law holds, in both modes. -/
theorem isClean_check_mesi_iff_coherent (snapshot : Snapshot) (mode : Mode) :
    (snapshot.check Protocol.mesi.rules mode).isClean = true ↔ snapshot.Coherent := by
  have hexhaustive :
      (snapshot.check Protocol.mesi.rules .exhaustive).isClean = true ↔
        snapshot.Coherent := by
    rw [Report.isClean_iff, List.eq_nil_iff_forall_not_mem, coherent_iff_forall_not_violates]
    exact forall_congr' fun violation => not_congr mem_violations_check_mesi
  cases mode with
  | exhaustive => exact hexhaustive
  | failFast => rw [isClean_check_failFast, hexhaustive]

end Snapshot

end CacheCoherence
