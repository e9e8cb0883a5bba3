import CacheCoherence.Coherence.Rule

/-!
# Violations

A violation says which invariant failed for which subject cache, at which
address and in which state the subject holds it.  It is either a duplicate, when
the subject itself lists the address several times in that state, or a conflict
with a peer that holds the address in a forbidden state.
-/

namespace CacheCoherence

inductive Violation.Kind where
  | duplicate (occurrences : Nat)
  | conflict (peer : CacheId) (peerState : LineState)
  deriving DecidableEq, Repr

structure Violation where
  invariant : Invariant
  cache : CacheId
  address : Address
  state : LineState
  kind : Violation.Kind
  deriving DecidableEq, Repr

namespace Violation

/-- Whether a cache takes part, as the subject or as the conflicting peer. -/
def involves (violation : Violation) (id : CacheId) : Bool :=
  violation.cache = id ||
    match violation.kind with
    | .duplicate _ => false
    | .conflict peer _ => peer = id

def text (violation : Violation) : String :=
  match violation.kind with
  | .duplicate occurrences =>
    "Duplicate (" ++ violation.address.text ++ ") in cache " ++ violation.cache.text ++
      ": " ++ occurrences.repr ++ " lines in " ++ violation.state.letter.toString
  | .conflict peer peerState =>
    violation.state.letter.toString ++ " in cache " ++ violation.cache.text ++
      " but " ++ peerState.letter.toString ++ " in cache " ++ peer.text ++
      " (" ++ violation.address.text ++ ")"

theorem involves_eq_true_iff {violation : Violation} {id : CacheId} :
    violation.involves id = true ↔
      violation.cache = id ∨ ∃ state, violation.kind = .conflict id state := by
  obtain ⟨invariant, cache, address, state, kind⟩ := violation
  cases kind with
  | duplicate occurrences => simp [involves]
  | conflict peer peerState => simp [involves]

end Violation

end CacheCoherence
