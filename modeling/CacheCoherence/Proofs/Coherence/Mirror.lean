import CacheCoherence.Proofs.Coherence.Violations
import Mathlib.Data.List.Perm.Subperm

/-!
# Conflicts from both sides

A conflict lies between two caches, and an exhaustive check finds it with either of
them as the subject.  The entry of the one side is the mirror image of the entry of
the other: the caches and the states change places, and the invariant is the one for
the state at the new subject.

As a reported list has no repetition and mirroring undoes itself, the conflicts of
a cache with another are as many as the conflicts of the other with it.
-/

namespace CacheCoherence

theorem Invariant.subject_injective : Function.Injective Invariant.subject := by
  intro invariant other h
  cases invariant <;> cases other <;> first | rfl | cases h

/-- The invariant that speaks of addresses held in a state. -/
def LineState.invariant? : LineState → Option Invariant
  | modified => some .modified
  | exclusive => some .exclusive
  | shared => some .shared
  | invalid => none

theorem Invariant.invariant?_subject (invariant : Invariant) :
    invariant.subject.invariant? = some invariant := by
  cases invariant <;> rfl

namespace Violation

/-- Whether a violation is a conflict of the one cache, as the subject, with the
other. -/
def isConflictOf (violation : Violation) (subject peer : CacheId) : Bool :=
  violation.cache = subject &&
    match violation.kind with
    | .duplicate _ => false
    | .conflict other _ => other = peer

/-- A conflict as it is found from the side of its peer. -/
def mirror? (violation : Violation) : Option Violation :=
  match violation.kind with
  | .duplicate _ => none
  | .conflict peer peerState =>
    peerState.invariant?.map fun invariant =>
      ⟨invariant, peer, violation.address, peerState,
        .conflict violation.cache violation.state⟩

theorem isConflictOf_eq_true_iff {violation : Violation} {subject peer : CacheId} :
    violation.isConflictOf subject peer = true ↔
      violation.cache = subject ∧ ∃ state, violation.kind = .conflict peer state := by
  obtain ⟨invariant, cache, address, state, kind⟩ := violation
  cases kind with
  | duplicate occurrences => simp [isConflictOf]
  | conflict other otherState => simp [isConflictOf]

theorem mirror?_conflict
    (invariant other : Invariant) (cache peer : CacheId) (address : Address)
    (state : LineState) :
    mirror? ⟨invariant, cache, address, state, .conflict peer other.subject⟩ =
      some ⟨other, peer, address, other.subject, .conflict cache state⟩ := by
  simp only [mirror?, other.invariant?_subject, Option.map_some]

end Violation

namespace Snapshot

variable {snapshot : Snapshot}

theorem Violates.subject_eq {violation : Violation} (h : snapshot.Violates violation) :
    violation.invariant.subject = violation.state := by
  cases h with
  | duplicate _ _ hinvariant => exact hinvariant
  | conflict _ _ _ _ _ _ _ _ hinvariant => exact hinvariant

/-- A conflict is between two caches, and a violation from the side of its peer too. -/
theorem Violates.mirror
    {invariant : Invariant} {cache peer : CacheId} {address : Address}
    {state peerState : LineState}
    (h : snapshot.Violates ⟨invariant, cache, address, state, .conflict peer peerState⟩) :
    peer ≠ cache ∧ ∃ other : Invariant, other.subject = peerState ∧
      snapshot.Violates ⟨other, peer, address, peerState, .conflict cache state⟩ := by
  cases h with
  | conflict hcache hpeer hne hlists hpeerLists hstate hpeerState hshared hinvariant =>
      obtain ⟨other, hother⟩ := LineState.exists_invariant hpeerState
      have hshared' : ¬(peerState = .shared ∧ state = .shared) :=
        fun hboth => hshared ⟨hboth.2, hboth.1⟩
      exact ⟨hne, other, hother, .conflict hpeer hcache (Ne.symm hne) hpeerLists hlists
        hpeerState hstate hshared' hother⟩

/-- Mirroring a conflict of the snapshot twice gives it back. -/
theorem Violates.exists_mirror?
    {violation : Violation} {cache peer : CacheId} (h : snapshot.Violates violation)
    (hconflict : violation.isConflictOf cache peer = true) :
    ∃ mirrored, snapshot.Violates mirrored ∧ mirrored.isConflictOf peer cache = true ∧
      violation.mirror? = some mirrored ∧ mirrored.mirror? = some violation := by
  obtain ⟨invariant, _, address, state, kind⟩ := violation
  obtain ⟨rfl, peerState, rfl⟩ := Violation.isConflictOf_eq_true_iff.mp hconflict
  have hsubject : invariant.subject = state := h.subject_eq
  obtain ⟨-, other, rfl, hmirrored⟩ := h.mirror
  refine ⟨_, hmirrored, ?_, Violation.mirror?_conflict .., ?_⟩
  · exact Violation.isConflictOf_eq_true_iff.mpr ⟨rfl, state, rfl⟩
  · subst hsubject
    exact Violation.mirror?_conflict ..

theorem nodup_violations_check_mesi (snapshot : Snapshot) :
    (snapshot.check Protocol.mesi.rules .exhaustive).violations.Nodup :=
  snapshot.nodup_violations_check_exhaustive Protocol.nodup_invariants_mesi
    fun _ hrule => Protocol.nodup_forbidden_mesi hrule

theorem length_conflicts_le (snapshot : Snapshot) (cache peer : CacheId) :
    let reported := (snapshot.check Protocol.mesi.rules .exhaustive).violations
    (reported.filter fun violation => violation.isConflictOf cache peer).length ≤
      (reported.filter fun violation => violation.isConflictOf peer cache).length := by
  intro reported
  let here := reported.filter fun violation => violation.isConflictOf cache peer
  let there := reported.filter fun violation => violation.isConflictOf peer cache
  have hmirror : ∀ violation ∈ here, ∃ mirrored ∈ there,
      violation.mirror? = some mirrored ∧ mirrored.mirror? = some violation := by
    intro violation hviolation
    obtain ⟨hreported, hconflict⟩ := List.mem_filter.mp hviolation
    obtain ⟨mirrored, hviolates, hback, hto, hfrom⟩ :=
      (mem_violations_check_mesi.mp hreported).exists_mirror? hconflict
    have hthere : mirrored ∈ there :=
      List.mem_filter.mpr ⟨mem_violations_check_mesi.mpr hviolates, hback⟩
    exact ⟨mirrored, hthere, hto, hfrom⟩
  -- No two conflicts have one image, because mirroring the image gives the conflict back.
  have hnodup : (here.map Violation.mirror?).Nodup := by
    refine (snapshot.nodup_violations_check_mesi.filter _).map_on ?_
    intro violation hviolation other hother heq
    obtain ⟨mirrored, -, hto, hfrom⟩ := hmirror violation hviolation
    obtain ⟨mirrored', -, hto', hfrom'⟩ := hmirror other hother
    have hsame : mirrored = mirrored' := Option.some.inj (hto.symm.trans (heq.trans hto'))
    exact Option.some.inj (hfrom.symm.trans ((congrArg Violation.mirror? hsame).trans hfrom'))
  have hsubset : here.map Violation.mirror? ⊆ there.map some := by
    intro image himage
    obtain ⟨violation, hviolation, rfl⟩ := List.mem_map.mp himage
    obtain ⟨mirrored, hmirrored, hto, -⟩ := hmirror violation hviolation
    exact List.mem_map.mpr ⟨mirrored, hmirrored, hto.symm⟩
  have hlength := (hnodup.subperm hsubset).length_le
  rwa [List.length_map, List.length_map] at hlength

/-- A reported conflict is found by its caches, its address and its states; the
invariant follows from them. -/
theorem filter_conflict_eq_singleton
    {invariant : Invariant} {cache peer : CacheId} {address : Address}
    {state peerState : LineState}
    (h : snapshot.Violates ⟨invariant, cache, address, state, .conflict peer peerState⟩) :
    ((snapshot.check Protocol.mesi.rules .exhaustive).violations.filter fun violation =>
      violation.cache = cache ∧ violation.address = address ∧ violation.state = state ∧
        violation.kind = .conflict peer peerState) =
          [⟨invariant, cache, address, state, .conflict peer peerState⟩] := by
  have honly : ∀ violation ∈ (snapshot.check Protocol.mesi.rules .exhaustive).violations,
      (violation.cache = cache ∧ violation.address = address ∧ violation.state = state ∧
        violation.kind = .conflict peer peerState) ↔
          violation = ⟨invariant, cache, address, state, .conflict peer peerState⟩ := by
    intro violation hviolation
    have hsubject := (mem_violations_check_mesi.mp hviolation).subject_eq
    constructor
    · obtain ⟨found, _, _, _, _⟩ := violation
      rintro ⟨rfl, rfl, rfl, rfl⟩
      have hfound : found = invariant :=
        Invariant.subject_injective (hsubject.trans h.subject_eq.symm)
      rw [hfound]
    · rintro rfl
      exact ⟨rfl, rfl, rfl, rfl⟩
  rw [List.filter_congr fun violation hviolation =>
      decide_eq_decide.mpr (honly violation hviolation), List.filter_eq,
    List.count_eq_one_of_mem snapshot.nodup_violations_check_mesi
      (mem_violations_check_mesi.mpr h), List.replicate_one]

/-- An exhaustive check reports each conflict once more, from the side of its peer,
and so as many conflicts of one cache with another as of the other with it. -/
theorem conflicts_mirrored_once (snapshot : Snapshot) :
    let reported := (snapshot.check Protocol.mesi.rules .exhaustive).violations
    (∀ (invariant : Invariant) (cache peer : CacheId) (address : Address)
      (state peerState : LineState),
      (⟨invariant, cache, address, state, .conflict peer peerState⟩ : Violation) ∈ reported →
        ∃ rule ∈ Protocol.mesi.rules, rule.subject = peerState ∧
          (⟨rule.invariant, peer, address, peerState, .conflict cache state⟩ : Violation) ≠
            ⟨invariant, cache, address, state, .conflict peer peerState⟩ ∧
          (reported.filter fun violation => violation.cache = peer ∧
            violation.address = address ∧ violation.state = peerState ∧
            violation.kind = .conflict cache state) =
              [⟨rule.invariant, peer, address, peerState, .conflict cache state⟩]) ∧
      ∀ cache peer : CacheId,
        (reported.filter fun violation => violation.isConflictOf cache peer).length =
          (reported.filter fun violation => violation.isConflictOf peer cache).length := by
  intro reported
  constructor
  · intro invariant cache peer address state peerState hreported
    obtain ⟨hne, other, hother, hmirrored⟩ := (mem_violations_check_mesi.mp hreported).mirror
    obtain ⟨rule, hrule, rfl⟩ := Protocol.exists_rule_mesi other
    have hsubject : rule.subject = peerState := (Protocol.subject_of_mem_mesi hrule).trans hother
    have hdifferent : (⟨rule.invariant, peer, address, peerState, .conflict cache state⟩ :
        Violation) ≠ ⟨invariant, cache, address, state, .conflict peer peerState⟩ :=
      fun heq => hne (congrArg Violation.cache heq)
    exact ⟨rule, hrule, hsubject, hdifferent, filter_conflict_eq_singleton hmirrored⟩
  · intro cache peer
    exact Nat.le_antisymm (snapshot.length_conflicts_le cache peer)
      (snapshot.length_conflicts_le peer cache)

end Snapshot

end CacheCoherence
