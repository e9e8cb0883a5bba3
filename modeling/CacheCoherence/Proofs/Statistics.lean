import CacheCoherence.Statistics

/-!
# What statistics say of records

Statistics are described by counting and comparing alone, without a scan of the records:
how often each state occurs among them, how many there are, and between which of their
values the recency counters lie.  One description fits the records of a cache, so that the
order in which they are listed does not matter, and the statistics of two parts of a listing
give the statistics of the whole.
-/

namespace CacheCoherence

/-- What the maximum of two words is.  The library derives its laws from this, and has done so
for the minimum. -/
instance lawfulMaxWord64 : Std.LawfulOrderLeftLeaningMax UInt64 where
  max_eq_left a b hle := by
    have hmax : max a b = if a ≤ b then b else a := rfl
    rw [hmax]
    split
    next hge => exact UInt64.le_antisymm hle hge
    next => rfl
  max_eq_right a b hnot := by
    have hge : a ≤ b := (UInt64.le_total a b).resolve_right hnot
    exact if_pos hge

/-! ## Ranges of values -/

namespace RecencyRange

/-- The ends of the range are two of the values, and all values are between them. -/
structure Spans (range : RecencyRange) (values : List UInt64) : Prop where
  least_mem : range.least ∈ values
  greatest_mem : range.greatest ∈ values
  least_le : ∀ value ∈ values, range.least ≤ value
  le_greatest : ∀ value ∈ values, value ≤ range.greatest

/-- The range of the values of two ranges. -/
def union (range other : RecencyRange) : RecencyRange :=
  ⟨min range.least other.least, max range.greatest other.greatest⟩

theorem spans_singleton (value : UInt64) : Spans ⟨value, value⟩ [value] := by
  constructor <;> simp

theorem Spans.union
    {range other : RecencyRange} {front back : List UInt64} (hfront : range.Spans front)
    (hback : other.Spans back) : (range.union other).Spans (front ++ back) := by
  have hleast : (range.union other).least = range.least ∨ (range.union other).least = other.least :=
    Std.min_eq_or
  have hgreatest : (range.union other).greatest = range.greatest ∨
      (range.union other).greatest = other.greatest :=
    Std.max_eq_or
  constructor
  · rcases hleast with heq | heq
    · exact List.mem_append_left back (heq ▸ hfront.least_mem)
    · exact List.mem_append_right front (heq ▸ hback.least_mem)
  · rcases hgreatest with heq | heq
    · exact List.mem_append_left back (heq ▸ hfront.greatest_mem)
    · exact List.mem_append_right front (heq ▸ hback.greatest_mem)
  · intro value hvalue
    rcases List.mem_append.mp hvalue with hmem | hmem
    · exact UInt64.le_trans Std.min_le_left (hfront.least_le value hmem)
    · exact UInt64.le_trans Std.min_le_right (hback.least_le value hmem)
  · intro value hvalue
    rcases List.mem_append.mp hvalue with hmem | hmem
    · exact UInt64.le_trans (hfront.le_greatest value hmem) Std.left_le_max
    · exact UInt64.le_trans (hback.le_greatest value hmem) Std.right_le_max

theorem Spans.of_perm
    {range : RecencyRange} {values others : List UInt64} (h : range.Spans values)
    (hperm : values.Perm others) : range.Spans others where
  least_mem := hperm.mem_iff.mp h.least_mem
  greatest_mem := hperm.mem_iff.mp h.greatest_mem
  least_le value hvalue := h.least_le value (hperm.mem_iff.mpr hvalue)
  le_greatest value hvalue := h.le_greatest value (hperm.mem_iff.mpr hvalue)

theorem Spans.unique
    {range other : RecencyRange} {values : List UInt64} (h : range.Spans values)
    (hother : other.Spans values) : range = other := by
  have hleast : range.least = other.least :=
    UInt64.le_antisymm (h.least_le _ hother.least_mem) (hother.least_le _ h.least_mem)
  have hgreatest : range.greatest = other.greatest :=
    UInt64.le_antisymm (hother.le_greatest _ h.greatest_mem) (h.le_greatest _ hother.greatest_mem)
  calc
    range = ⟨range.least, range.greatest⟩ := rfl
    _ = ⟨other.least, other.greatest⟩ := by rw [hleast, hgreatest]

/-- A range that is extended by one value after the other spans them with what it spanned. -/
theorem Spans.foldl_extend
    {range : RecencyRange} {seen : List UInt64} (h : range.Spans seen) (values : List UInt64) :
    (values.foldl extend range).Spans (seen ++ values) := by
  induction values generalizing range seen with
  | nil => rwa [List.append_nil]
  | cons value rest ih =>
      rw [List.append_cons]
      exact ih (h.union (spans_singleton value))

theorem spans_of_ofValues?
    {values : List UInt64} {range : RecencyRange} (h : ofValues? values = some range) :
    range.Spans values := by
  cases values with
  | nil => cases h
  | cons value rest =>
      cases h
      exact (spans_singleton value).foldl_extend rest

theorem ofValues?_eq_none_iff {values : List UInt64} : ofValues? values = none ↔ values = [] := by
  cases values with
  | nil => exact iff_of_true rfl rfl
  | cons value rest => exact iff_of_false nofun nofun

end RecencyRange

/-! ## Descriptions of records -/

theorem LineState.sum_count (states : List LineState) :
    states.count .modified + states.count .exclusive + states.count .shared +
      states.count .invalid = states.length := by
  induction states with
  | nil => rfl
  | cons state rest ih =>
      rw [List.length_cons, ← ih]
      cases state <;> simp <;> omega

namespace CacheStatistics

/-- The statistics are those of the records. -/
structure Describes (statistics : CacheStatistics) (records : List Record) : Prop where
  count_eq : ∀ state, statistics.count state = (records.map Record.state).count state
  total_eq : statistics.total = records.length
  lastUsed_eq_none_iff : statistics.lastUsed = none ↔ records = []
  spans : ∀ range, statistics.lastUsed = some range → range.Spans (records.map Record.lastUsed)

/-- The statistics of a cache with the records of two listings: the counts are added up, and a
listing without records leaves the range of the other one. -/
def together (front back : CacheStatistics) : CacheStatistics where
  id := front.id
  lastUsed := Option.merge RecencyRange.union front.lastUsed back.lastUsed
  modified := front.modified + back.modified
  exclusive := front.exclusive + back.exclusive
  shared := front.shared + back.shared
  invalid := front.invalid + back.invalid
  total := front.total + back.total

theorem count_together (front back : CacheStatistics) (state : LineState) :
    (front.together back).count state = front.count state + back.count state := by
  cases state with
  | modified => rfl
  | exclusive => rfl
  | shared => rfl
  | invalid => rfl

namespace Describes

/-- Each record is in one of the states. -/
theorem sum_count
    {statistics : CacheStatistics} {records : List Record} (h : statistics.Describes records) :
    statistics.count .modified + statistics.count .exclusive + statistics.count .shared +
      statistics.count .invalid = statistics.total := by
  simp only [h.count_eq]
  rw [LineState.sum_count, List.length_map, h.total_eq]

theorem of_perm
    {statistics : CacheStatistics} {records others : List Record}
    (h : statistics.Describes records) (hperm : records.Perm others) :
    statistics.Describes others where
  count_eq state := (h.count_eq state).trans ((hperm.map Record.state).count_eq state)
  total_eq := h.total_eq.trans hperm.length_eq
  lastUsed_eq_none_iff := by
    rw [h.lastUsed_eq_none_iff]
    exact ⟨fun hnil => (hnil ▸ hperm).nil_eq.symm, fun hnil => (hnil ▸ hperm).eq_nil⟩
  spans range hrange := (h.spans range hrange).of_perm (hperm.map Record.lastUsed)

theorem lastUsed_unique
    {statistics other : CacheStatistics} {records : List Record}
    (h : statistics.Describes records) (hother : other.Describes records) :
    statistics.lastUsed = other.lastUsed := by
  cases hrange : statistics.lastUsed with
  | none => exact (hother.lastUsed_eq_none_iff.mpr (h.lastUsed_eq_none_iff.mp hrange)).symm
  | some range =>
      cases hothers : other.lastUsed with
      | none =>
          rw [h.lastUsed_eq_none_iff.mpr (hother.lastUsed_eq_none_iff.mp hothers)] at hrange
          cases hrange
      | some others =>
          exact congrArg some ((h.spans range hrange).unique (hother.spans others hothers))

/-- Nothing but the identifier is left open by the records. -/
theorem unique
    {statistics other : CacheStatistics} {records : List Record}
    (h : statistics.Describes records) (hother : other.Describes records)
    (hid : statistics.id = other.id) : statistics = other := by
  have hcount (state : LineState) : statistics.count state = other.count state :=
    (h.count_eq state).trans (hother.count_eq state).symm
  have hmodified : statistics.modified = other.modified := hcount .modified
  have hexclusive : statistics.exclusive = other.exclusive := hcount .exclusive
  have hshared : statistics.shared = other.shared := hcount .shared
  have hinvalid : statistics.invalid = other.invalid := hcount .invalid
  have htotal : statistics.total = other.total := h.total_eq.trans hother.total_eq.symm
  have hlastUsed : statistics.lastUsed = other.lastUsed := h.lastUsed_unique hother
  calc
    statistics = ⟨statistics.id, statistics.lastUsed, statistics.modified, statistics.exclusive,
      statistics.shared, statistics.invalid, statistics.total⟩ := rfl
    _ = ⟨other.id, other.lastUsed, other.modified, other.exclusive, other.shared, other.invalid,
      other.total⟩ := by
      rw [hid, hlastUsed, hmodified, hexclusive, hshared, hinvalid, htotal]

theorem together
    {statistics other : CacheStatistics} {front back : List Record}
    (hfront : statistics.Describes front) (hback : other.Describes back) :
    (statistics.together other).Describes (front ++ back) where
  count_eq state := by
    rw [count_together, List.map_append, List.count_append, hfront.count_eq, hback.count_eq]
  total_eq := by
    rw [List.length_append, ← hfront.total_eq, ← hback.total_eq]
    rfl
  lastUsed_eq_none_iff := by
    rw [List.append_eq_nil_iff, ← hfront.lastUsed_eq_none_iff, ← hback.lastUsed_eq_none_iff]
    exact Option.merge_eq_none_iff
  spans range hrange := by
    rcases Option.merge_eq_some_iff.mp hrange with
      ⟨hsome, hnone⟩ | ⟨hnone, hsome⟩ | ⟨_, _, hfirst, hsecond, rfl⟩
    · rw [hback.lastUsed_eq_none_iff.mp hnone, List.append_nil]
      exact hfront.spans range hsome
    · rw [hfront.lastUsed_eq_none_iff.mp hnone, List.nil_append]
      exact hback.spans range hsome
    · rw [List.map_append]
      exact (hfront.spans _ hfirst).union (hback.spans _ hsecond)

end Describes

end CacheStatistics

/-! ## The statistics of a snapshot -/

theorem Cache.describes_statistics (cache : Cache) :
    cache.statistics.Describes cache.records where
  count_eq state := by
    rw [count_statistics, countIn, List.count, List.countP_map]
    rfl
  total_eq := rfl
  lastUsed_eq_none_iff := RecencyRange.ofValues?_eq_none_iff.trans List.map_eq_nil_iff
  spans range hrange := RecencyRange.spans_of_ofValues? hrange

theorem Cache.statistics_of_perm
    (id : CacheId) {records others : List Record} (hperm : records.Perm others) :
    (Cache.mk id records).statistics = (Cache.mk id others).statistics := by
  have hrecords := (Cache.mk id records).describes_statistics
  exact (hrecords.of_perm hperm).unique (Cache.mk id others).describes_statistics rfl

theorem Cache.statistics_append (id : CacheId) (front back : List Record) :
    (Cache.mk id (front ++ back)).statistics =
      (Cache.mk id front).statistics.together (Cache.mk id back).statistics := by
  have hfront := (Cache.mk id front).describes_statistics
  have hback := (Cache.mk id back).describes_statistics
  exact (Cache.mk id (front ++ back)).describes_statistics.unique (hfront.together hback) rfl

namespace Snapshot

theorem map_id_statistics (snapshot : Snapshot) :
    snapshot.statistics.caches.map CacheStatistics.id = snapshot.ids := by
  rw [statistics, List.map_map]
  rfl

theorem isSome_get?_statistics_iff {snapshot : Snapshot} {id : CacheId} :
    (snapshot.statistics.get? id).isSome = true ↔ id ∈ snapshot.ids := by
  rw [← snapshot.map_id_statistics, Statistics.get?, List.find?_isSome, List.mem_map]
  simp

theorem get?_statistics {snapshot : Snapshot} {cache : Cache} (hcache : cache ∈ snapshot.caches) :
    snapshot.statistics.get? cache.id = some cache.statistics := by
  have hid : cache.id ∈ snapshot.ids := List.mem_map_of_mem hcache
  obtain ⟨found, hfound⟩ := Option.isSome_iff_exists.mp (isSome_get?_statistics_iff.mpr hid)
  obtain ⟨other, hother, rfl⟩ := List.mem_map.mp (List.mem_of_find?_eq_some hfound)
  have hsame : other.statistics.id = cache.id := by simpa using List.find?_some hfound
  rw [hfound, eq_of_id_eq hother hcache hsame]

/-- There are statistics of every cache of a snapshot and of no other, in order.  They count the
records in each state and all together, and give the least and the greatest recency counter if
there are records.  The order of the records does not matter, and those of two listings are
described by what describes the two. -/
theorem statistics_describe_caches (snapshot : Snapshot) :
    snapshot.statistics.caches.map CacheStatistics.id = snapshot.ids ∧
      (∀ id, (snapshot.statistics.get? id).isSome = true ↔ id ∈ snapshot.ids) ∧
      (∀ cache ∈ snapshot.caches, snapshot.statistics.get? cache.id = some cache.statistics ∧
        cache.statistics.Describes cache.records ∧
        cache.statistics.count .modified + cache.statistics.count .exclusive +
          cache.statistics.count .shared + cache.statistics.count .invalid =
            cache.statistics.total) ∧
      (∀ id (records others : List Record), records.Perm others →
        (Cache.mk id records).statistics = (Cache.mk id others).statistics) ∧
      ∀ id (front back : List Record), (Cache.mk id (front ++ back)).statistics =
        (Cache.mk id front).statistics.together (Cache.mk id back).statistics := by
  refine ⟨snapshot.map_id_statistics, fun id => isSome_get?_statistics_iff, ?_, ?_, ?_⟩
  · intro cache hcache
    have hdescribes := cache.describes_statistics
    exact ⟨get?_statistics hcache, hdescribes, hdescribes.sum_count⟩
  · exact fun id records others hperm => Cache.statistics_of_perm id hperm
  · exact Cache.statistics_append

end Snapshot

end CacheCoherence
