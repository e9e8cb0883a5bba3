import CacheCoherence.Snapshot.Record

/-!
# Coherence invariants

Every invariant has the same shape: an address that one cache, the subject,
holds in a certain state must not be held by another cache, the peer, in certain
states.  A protocol is therefore a table of such rules.
-/

namespace CacheCoherence

/-- The family that a rule belongs to. -/
inductive Invariant where
  | modified
  | exclusive
  | shared
  deriving DecidableEq, Repr

namespace Invariant

/-- All invariants, in the order of the table. -/
def all : List Invariant :=
  [modified, exclusive, shared]

def name : Invariant → String
  | modified => "modified"
  | exclusive => "exclusive"
  | shared => "shared"

def testName (invariant : Invariant) : String :=
  "test_" ++ invariant.name

end Invariant

/-- One row of a table: the state in which the subject holds an address, and the
states in which no peer may hold it, in reporting order. -/
structure Rule where
  invariant : Invariant
  subject : LineState
  forbidden : List LineState
  deriving DecidableEq, Repr

inductive Protocol where
  | mesi
  deriving DecidableEq, Repr

namespace Protocol

/-- The table of a protocol.  A modified or exclusive line has a single owner, and
shared copies exist together with shared copies only. -/
def rules : Protocol → List Rule
  | mesi =>
    [⟨.modified, .modified, [.modified, .exclusive, .shared]⟩,
      ⟨.exclusive, .exclusive, [.modified, .exclusive, .shared]⟩,
      ⟨.shared, .shared, [.modified, .exclusive]⟩]

def rule? (protocol : Protocol) (invariant : Invariant) : Option Rule :=
  protocol.rules.find? fun rule => rule.invariant = invariant

end Protocol

end CacheCoherence
