import CacheCoherence.Proofs.Distinct
import CacheCoherence.Snapshot.Basic

/-!
# Caches that are listed again

The snapshot of a list of contents is described without the replacements that lead
to it: its identifiers are those of the list, each at its first occurrence, and the
records of an identifier are those of its last entry.

A list without repeated identifiers is the snapshot as it stands.  When a list is given
in two parts, each of them can be made into a snapshot first.
-/

namespace CacheCoherence

theorem Cache.find?_putInto (cache : Cache) (caches : List Cache) (id : CacheId) :
    ((cache.putInto caches).find? fun other => other.id = id) =
      if cache.id = id then some cache else caches.find? fun other => other.id = id := by
  induction caches with
  | nil =>
      rw [putInto, List.find?_singleton]
      simp only [decide_eq_true_eq, List.find?_nil]
  | cons first rest ih =>
      by_cases hplace : first.id = cache.id
      · rw [putInto, if_pos hplace]
        by_cases hid : cache.id = id
        · simp [hid]
        · simp [hid, hplace]
      · rw [putInto, if_neg hplace, List.find?_cons, List.find?_cons, ih]
        by_cases hfirst : first.id = id
        · have hid : cache.id ≠ id := fun h => hplace (hfirst.trans h.symm)
          simp [hfirst, hid]
        · simp [hfirst]

namespace Snapshot

theorem records?_put (snapshot : Snapshot) (cache : Cache) (id : CacheId) :
    (snapshot.put cache).records? id =
      if cache.id = id then some cache.records else snapshot.records? id := by
  rw [records?, put, cache.find?_putInto]
  split <;> rfl

theorem ofCaches_concat (caches : List Cache) (cache : Cache) :
    ofCaches (caches ++ [cache]) = (ofCaches caches).put cache :=
  List.foldl_append

/-- The identifiers of a list of contents, in the order of their first entries. -/
theorem ids_ofCaches (caches : List Cache) :
    (ofCaches caches).ids = (caches.map Cache.id).eraseDups := by
  induction caches using List.reverseRecOn with
  | nil => rfl
  | append_singleton front cache ih =>
      rw [ofCaches_concat, ids_put, ih, List.map_append, List.map_singleton, eraseDups_concat]
      simp only [List.mem_eraseDups]

/-- The last entry for an identifier has its records. -/
theorem records?_ofCaches
    {front back : List Cache} {cache : Cache} (hlast : cache.id ∉ back.map Cache.id) :
    (ofCaches (front ++ cache :: back)).records? cache.id = some cache.records := by
  induction back using List.reverseRecOn with
  | nil => rw [ofCaches_concat, records?_put, if_pos rfl]
  | append_singleton back other ih =>
      rw [List.map_append, List.mem_append, not_or, List.map_singleton,
        List.mem_singleton] at hlast
      rw [← List.cons_append, ← List.append_assoc, ofCaches_concat, records?_put,
        if_neg (Ne.symm hlast.2), ih hlast.1]

end Snapshot

/-! ## The snapshot of distinct caches -/

theorem Cache.id_not_mem_of_nodup
    {front rest : List Cache} {cache : Cache}
    (hnodup : ((front ++ cache :: rest).map id).Nodup) : cache.id ∉ front.map id := by
  rw [List.map_append, List.nodup_append] at hnodup
  intro hmem
  exact hnodup.2.2 cache.id hmem cache.id List.mem_cons_self rfl

theorem Cache.putInto_of_not_mem
    {cache : Cache} {caches : List Cache} (hnew : cache.id ∉ caches.map Cache.id) :
    cache.putInto caches = caches ++ [cache] := by
  induction caches with
  | nil => rfl
  | cons other rest ih =>
      rw [List.map_cons, List.mem_cons, not_or] at hnew
      rw [putInto, if_neg (Ne.symm hnew.1), ih hnew.2, List.cons_append]

namespace Snapshot

theorem caches_foldl_put
    {snapshot : Snapshot} {caches : List Cache}
    (hnodup : ((snapshot.caches ++ caches).map Cache.id).Nodup) :
    (caches.foldl put snapshot).caches = snapshot.caches ++ caches := by
  induction caches generalizing snapshot with
  | nil => exact (List.append_nil _).symm
  | cons cache rest ih =>
      have hnew : cache.id ∉ snapshot.caches.map Cache.id := Cache.id_not_mem_of_nodup hnodup
      have hput : (snapshot.put cache).caches = snapshot.caches ++ [cache] :=
        Cache.putInto_of_not_mem hnew
      rw [List.foldl_cons, ih (by rwa [hput, List.append_assoc]), hput, List.append_assoc,
        List.singleton_append]

/-- A snapshot is made up of its own caches. -/
theorem ofCaches_caches (snapshot : Snapshot) : ofCaches snapshot.caches = snapshot := by
  apply Snapshot.ext
  rw [ofCaches, caches_foldl_put (by simpa [empty] using snapshot.nodup_ids), empty,
    List.nil_append]

/-! ## Two lists of contents -/

/-- Of two lists of contents, the later one decides on the records of an identifier that
it has. -/
theorem records?_ofCaches_append (front back : List Cache) (id : CacheId) :
    (ofCaches (front ++ back)).records? id =
      ((ofCaches back).records? id).or ((ofCaches front).records? id) := by
  induction back using List.reverseRecOn with
  | nil =>
      rw [List.append_nil]
      rfl
  | append_singleton back cache ih =>
      rw [← List.append_assoc, ofCaches_concat, ofCaches_concat, records?_put, records?_put, ih]
      split
      · rfl
      · rfl

/-- Of two lists of contents, the later one adds the identifiers that the earlier one does
not have. -/
theorem ids_ofCaches_append (front back : List Cache) :
    (ofCaches (front ++ back)).ids =
      (ofCaches front).ids ++ (ofCaches back).ids.filter fun id => id ∉ (ofCaches front).ids := by
  induction back using List.reverseRecOn with
  | nil =>
      rw [List.append_nil]
      exact (List.append_nil _).symm
  | append_singleton back cache ih =>
      rw [← List.append_assoc, ofCaches_concat, ofCaches_concat, ids_put, ids_put, ih]
      by_cases hfront : cache.id ∈ (ofCaches front).ids
      · rw [if_pos (List.mem_append_left _ hfront)]
        split
        · rfl
        · simp [hfront]
      · by_cases hback : cache.id ∈ (ofCaches back).ids
        · simp [hfront, hback]
        · simp [hfront, hback]

theorem caches_eq_filterMap_ids (snapshot : Snapshot) :
    snapshot.caches =
      snapshot.ids.filterMap fun id => (snapshot.records? id).map (Cache.mk id) := by
  have hself : ∀ cache ∈ snapshot.caches,
      (snapshot.records? cache.id).map (Cache.mk cache.id) = some cache := by
    intro cache hcache
    rw [records?_eq_some_iff.mpr hcache]
    rfl
  rw [ids, List.filterMap_map]
  exact ((List.filterMap_congr hself).trans List.filterMap_some).symm

/-- A snapshot is known by the order of its identifiers and the records of each. -/
theorem ext_records {snapshot other : Snapshot} (hids : snapshot.ids = other.ids)
    (hrecords : ∀ id, snapshot.records? id = other.records? id) : snapshot = other := by
  apply Snapshot.ext
  rw [caches_eq_filterMap_ids, caches_eq_filterMap_ids, hids]
  simp only [hrecords]

/-- Nothing is lost when lists of contents are made into snapshots before they are put
together. -/
theorem ofCaches_append (front back : List Cache) :
    ofCaches (front ++ back) = ofCaches ((ofCaches front).caches ++ (ofCaches back).caches) := by
  apply ext_records
  · rw [ids_ofCaches_append, ids_ofCaches_append, ofCaches_caches, ofCaches_caches]
  · intro id
    rw [records?_ofCaches_append, records?_ofCaches_append, ofCaches_caches, ofCaches_caches]

end Snapshot

end CacheCoherence
