import CacheCoherence.Snapshot.Record

/-!
# Snapshots

A snapshot is the contents of several caches at one instant: the caches in the
order in which they were first listed, each identifier once, and under each
cache its records in the order in which they were listed.  Both orders belong to
the snapshot, so two snapshots are equal only when they agree in them.

When the contents of one cache are given several times, the cache keeps the
place of the first and the contents of the last; `Snapshot.put` is that rule for
one cache and `Snapshot.ofCaches` for a whole list.
-/

namespace CacheCoherence

structure Cache where
  id : CacheId
  records : List Record
  deriving DecidableEq, Repr

namespace Cache

/-- Puts a cache in the place of the one with its identifier, or behind all
others when there is none. -/
def putInto (cache : Cache) : List Cache → List Cache
  | [] => [cache]
  | other :: rest =>
    if other.id = cache.id then cache :: rest else other :: cache.putInto rest

theorem ids_putInto (cache : Cache) (caches : List Cache) :
    (cache.putInto caches).map Cache.id =
      if cache.id ∈ caches.map Cache.id then caches.map Cache.id
      else caches.map Cache.id ++ [cache.id] := by
  induction caches with
  | nil => rfl
  | cons other rest ih =>
    by_cases h : other.id = cache.id
    · simp [putInto, h]
    · have h' : ¬ cache.id = other.id := fun e => h e.symm
      simp only [putInto, h, h', if_false, List.map_cons, List.mem_cons, false_or, ih]
      split <;> rfl

theorem nodup_ids_putInto (cache : Cache) {caches : List Cache}
    (h : (caches.map Cache.id).Nodup) :
    ((cache.putInto caches).map Cache.id).Nodup := by
  rw [ids_putInto]
  split
  · exact h
  · next hnew =>
    refine List.nodup_append.2 ⟨h, by simp, ?_⟩
    intro id hid other hother
    rw [List.mem_singleton.1 hother]
    exact fun e => hnew (e ▸ hid)

end Cache

/-- The contents of several caches, no two of one identifier. -/
@[ext] structure Snapshot where
  caches : List Cache
  nodup_ids : (caches.map Cache.id).Nodup

namespace Snapshot

instance : DecidableEq Snapshot := fun s t =>
  decidable_of_iff (s.caches = t.caches) Snapshot.ext_iff.symm

def empty : Snapshot :=
  ⟨[], List.nodup_nil⟩

/-- Gives a cache new contents where it stands, or adds it behind the others. -/
def put (snapshot : Snapshot) (cache : Cache) : Snapshot :=
  ⟨cache.putInto snapshot.caches, cache.nodup_ids_putInto snapshot.nodup_ids⟩

/-- The snapshot of a list of contents, where a later entry for a cache replaces
an earlier one in its place. -/
def ofCaches (caches : List Cache) : Snapshot :=
  caches.foldl put empty

def ids (snapshot : Snapshot) : List CacheId :=
  snapshot.caches.map Cache.id

def records? (snapshot : Snapshot) (id : CacheId) : Option (List Record) :=
  (snapshot.caches.find? fun cache => cache.id = id).map Cache.records

def size (snapshot : Snapshot) : Nat :=
  snapshot.caches.length

/-- The number of records in all caches together. -/
def recordCount (snapshot : Snapshot) : Nat :=
  (snapshot.caches.flatMap Cache.records).length

theorem ids_put (snapshot : Snapshot) (cache : Cache) :
    (snapshot.put cache).ids =
      if cache.id ∈ snapshot.ids then snapshot.ids else snapshot.ids ++ [cache.id] :=
  cache.ids_putInto snapshot.caches

/-- A snapshot has one cache of an identifier. -/
theorem eq_of_id_eq {snapshot : Snapshot} {cache other : Cache}
    (hcache : cache ∈ snapshot.caches) (hother : other ∈ snapshot.caches)
    (hid : cache.id = other.id) : cache = other := by
  have hnodup := snapshot.nodup_ids
  revert hcache hother hnodup
  induction snapshot.caches with
  | nil => simp
  | cons first rest ih =>
    intro hcache hother hnodup
    rw [List.map_cons, List.nodup_cons] at hnodup
    rcases List.mem_cons.1 hcache with hcache | hcache
    · rcases List.mem_cons.1 hother with hother | hother
      · rw [hcache, hother]
      · exact absurd (List.mem_map.2 ⟨other, hother, hid ▸ hcache ▸ rfl⟩) hnodup.1
    · rcases List.mem_cons.1 hother with hother | hother
      · exact absurd (List.mem_map.2 ⟨cache, hcache, hid.trans (hother ▸ rfl)⟩) hnodup.1
      · exact ih hcache hother hnodup.2

theorem records?_eq_some_iff {snapshot : Snapshot} {id : CacheId}
    {records : List Record} :
    snapshot.records? id = some records ↔ (⟨id, records⟩ : Cache) ∈ snapshot.caches := by
  unfold records?
  rw [Option.map_eq_some_iff]
  constructor
  · rintro ⟨cache, hfind, rfl⟩
    have hid : cache.id = id := by simpa using List.find?_some hfind
    exact hid ▸ List.mem_of_find?_eq_some hfind
  · intro hmem
    cases hfind : snapshot.caches.find? fun cache => cache.id = id with
    | none => simpa using List.find?_eq_none.1 hfind _ hmem
    | some cache =>
      have hid : cache.id = id := by simpa using List.find?_some hfind
      refine ⟨cache, rfl, ?_⟩
      rw [eq_of_id_eq (List.mem_of_find?_eq_some hfind) hmem hid]

end Snapshot

end CacheCoherence
