import CacheCoherence.Snapshot.Basic

/-!
# Statistics

A description of each cache of a snapshot, which does not depend on any check:
how many of its records are in each state, and between which values their
recency counters lie.  A cache without records has no such range.
-/

namespace CacheCoherence

/-- The least and the greatest value of a recency counter. -/
structure RecencyRange where
  least : UInt64
  greatest : UInt64
  deriving DecidableEq, Repr

namespace RecencyRange

def extend (range : RecencyRange) (value : UInt64) : RecencyRange :=
  ⟨min range.least value, max range.greatest value⟩

/-- The range of some values, if there are any. -/
def ofValues? : List UInt64 → Option RecencyRange
  | [] => none
  | value :: rest => some (rest.foldl extend ⟨value, value⟩)

end RecencyRange

structure CacheStatistics where
  id : CacheId
  lastUsed : Option RecencyRange
  modified : Nat
  exclusive : Nat
  shared : Nat
  invalid : Nat
  total : Nat
  deriving DecidableEq, Repr

namespace CacheStatistics

def count (statistics : CacheStatistics) : LineState → Nat
  | .modified => statistics.modified
  | .exclusive => statistics.exclusive
  | .shared => statistics.shared
  | .invalid => statistics.invalid

end CacheStatistics

/-- The number of records of a cache in a state. -/
def Cache.countIn (cache : Cache) (state : LineState) : Nat :=
  cache.records.countP fun record => record.state = state

/-- The statistics of a cache; its records in every state count for the total. -/
def Cache.statistics (cache : Cache) : CacheStatistics where
  id := cache.id
  lastUsed := RecencyRange.ofValues? (cache.records.map Record.lastUsed)
  modified := cache.countIn .modified
  exclusive := cache.countIn .exclusive
  shared := cache.countIn .shared
  invalid := cache.countIn .invalid
  total := cache.records.length

structure Statistics where
  caches : List CacheStatistics
  deriving DecidableEq, Repr

def Statistics.get? (statistics : Statistics) (id : CacheId) : Option CacheStatistics :=
  statistics.caches.find? fun cache => cache.id = id

/-- The statistics of all caches of a snapshot, in order. -/
def Snapshot.statistics (snapshot : Snapshot) : Statistics :=
  ⟨snapshot.caches.map Cache.statistics⟩

@[simp] theorem Cache.count_statistics (cache : Cache) (state : LineState) :
    cache.statistics.count state = cache.countIn state := by
  cases state <;> rfl

end CacheCoherence
