import CacheCoherence.Text.Blank

/-!
# Cache lines

A record describes one line of a cache: the address of the memory block it
holds, a recency counter private to the cache, and the coherence state of the
line.  Address fields and counters are words of sixty-four bits, identifiers of
caches words of thirty-two.
-/

namespace CacheCoherence

inductive LineState where
  | modified
  | exclusive
  | shared
  | invalid
  deriving DecidableEq, Repr

namespace LineState

/-- The letter that stands for a state in dumps and reports. -/
def letter : LineState → Char
  | modified => 'M'
  | exclusive => 'E'
  | shared => 'S'
  | invalid => 'I'

def name : LineState → String
  | modified => "Modified"
  | exclusive => "Exclusive"
  | shared => "Shared"
  | invalid => "Invalid"

/-- The state that a text of one letter stands for. -/
def ofLetter? : Text → Option LineState
  | ['M'] => some modified
  | ['E'] => some exclusive
  | ['S'] => some shared
  | ['I'] => some invalid
  | _ => none

/-- All states, in reporting order. -/
def all : List LineState :=
  [modified, exclusive, shared, invalid]

/-- The states of a line that holds a copy of its block, in reporting order. -/
def observable : List LineState :=
  [modified, exclusive, shared]

/-- Whether a line in this state holds a copy of its block. -/
def isValid (state : LineState) : Bool :=
  state ≠ invalid

theorem ofLetter?_eq_some_iff {text : Text} {state : LineState} :
    ofLetter? text = some state ↔ text = [state.letter] := by
  constructor
  · intro h
    unfold ofLetter? at h
    split at h <;> cases h <;> rfl
  · rintro rfl
    cases state <;> rfl

end LineState

structure CacheId where
  number : UInt32
  deriving DecidableEq, Repr

namespace CacheId

def text (id : CacheId) : String :=
  id.number.toNat.repr

theorem eq_of_toNat_eq {id other : CacheId} (h : id.number.toNat = other.number.toNat) :
    id = other :=
  congrArg CacheId.mk (UInt32.toNat_inj.1 h)

end CacheId

/-- The identity of a memory block across caches. -/
structure Address where
  tag : UInt64
  setIndex : UInt64
  deriving DecidableEq, Repr

namespace Address

def text (address : Address) : String :=
  "tag " ++ address.tag.toNat.repr ++ ", set " ++ address.setIndex.toNat.repr

end Address

structure Record where
  setIndex : UInt64
  tag : UInt64
  lastUsed : UInt64
  state : LineState
  deriving DecidableEq, Repr

namespace Record

/-- The address of the block that the line belongs to. -/
def address (record : Record) : Address :=
  ⟨record.tag, record.setIndex⟩

end Record

end CacheCoherence
