import CacheCoherence.Proofs.Dump.Run
import CacheCoherence.Proofs.Dump.WrittenLines
import CacheCoherence.Proofs.Snapshot.Relisting

/-!
# Reading a written dump

The dump of a snapshot is read back as the snapshot, and the reader has nothing
to warn about.  Inside a section the lines of a cache add one listing to those
that have been read; as the caches of a snapshot have different identifiers, no
listing replaces another, and the listings are the caches again.
-/

namespace CacheCoherence

/-! ## The reader on the lines of caches -/

namespace Dump.State

theorem readsQuietly_sectionOpening (state : State) (hplace : state.place = .outside) :
    state.ReadsQuietly [sectionOpening.toList] (state.goTo .unlisted) := by
  have hkind : LineKind.of sectionOpening.toList = .sectionOpen := by decide
  refine .cons ?_ ?_ (.nil _)
  · rw [hkind, step, if_pos hplace, if_pos rfl]
  · intro number notice hnotice
    rw [hkind, notice?, if_pos hplace, if_pos rfl] at hnotice
    cases hnotice
    simp [Notice.entry]

theorem readsQuietly_sectionClosing {state : State} (hplace : state.place ≠ .outside) :
    state.ReadsQuietly [sectionClosing.toList] (state.goTo .outside) := by
  have hkind : LineKind.of sectionClosing.toList = .sectionClose := by decide
  refine .cons ?_ ?_ (.nil _)
  · rw [hkind, step, if_neg hplace, stepInside]
  · intro number notice hnotice
    rw [hkind, notice?, if_neg hplace] at hnotice
    cases hnotice
    simp [Notice.entry]

theorem readsQuietly_header
    {state : State} {id : CacheId} (hplace : state.place ≠ .outside)
    (hnew : id ∉ state.listings.map Cache.id) :
    state.ReadsQuietly [(headerWord ++ id.text ++ ": ").toList]
      (state.goTo (.listing id #[])) := by
  refine .cons ?_ ?_ (.nil _)
  · rw [LineKind.of_header, step, if_neg hplace, stepInside]
  · intro number notice hnotice
    rw [LineKind.of_header, notice?, if_neg hplace] at hnotice
    simp only [if_neg hnew] at hnotice
    cases hnotice

/-- Nothing is reported of a record line, wherever it stands. -/
theorem notice?_record (state : State) (number : Nat) (literal : Text) :
    state.notice? number (.record literal) = none := by
  unfold notice?
  split
  · exact if_neg nofun
  · rfl

/-- Records add to the open listing, in their order. -/
theorem readsQuietly_records
    (complete : Array Cache) (id : CacheId) (seen records : List Record) :
    ReadsQuietly ⟨complete, .listing id seen.toArray⟩
      (records.map fun record => ("\t" ++ record.literal).toList)
      ⟨complete, .listing id (seen ++ records).toArray⟩ := by
  induction records generalizing seen with
  | nil =>
      rw [List.append_nil]
      exact .nil _
  | cons record rest ih =>
      have hrest := ih (seen ++ [record])
      rw [List.append_assoc, List.singleton_append] at hrest
      refine .cons ?_ ?_ hrest
      · rw [LineKind.of_record, step, if_neg (by simp), stepInside]
        simp only [addRecord, readRecord_literal, List.push_toArray]
      · intro number notice hnotice
        rw [LineKind.of_record, notice?_record] at hnotice
        cases hnotice

/-- The lines of a cache that has not been listed add its listing. -/
theorem exists_readsQuietly_cache
    {state : State} {cache : Cache} (hplace : state.place ≠ .outside)
    (hnew : cache.id ∉ state.listings.map Cache.id) :
    ∃ next, state.ReadsQuietly (cache.dumpLines.map String.toList) next ∧
      next.place ≠ .outside ∧ next.listings = state.listings ++ [cache] := by
  let opened := state.goTo (.listing cache.id #[])
  have hopened : opened = ⟨opened.complete, .listing cache.id ([] : List Record).toArray⟩ := by
    rw [← place_goTo state (.listing cache.id #[])]
  have hheader := readsQuietly_header hplace hnew
  have hrecords := readsQuietly_records opened.complete cache.id [] cache.records
  rw [← hopened, List.nil_append] at hrecords
  refine ⟨⟨opened.complete, .listing cache.id cache.records.toArray⟩, ?_, nofun, ?_⟩
  · have hlines := hheader.append hrecords
    simpa [Cache.dumpLines, Function.comp_def] using hlines
  · rw [listings, complete_goTo]
    rfl

theorem exists_readsQuietly_caches
    {state : State} {caches : List Cache} (hplace : state.place ≠ .outside)
    (hnodup : ((state.listings ++ caches).map Cache.id).Nodup) :
    ∃ next, state.ReadsQuietly ((caches.flatMap Cache.dumpLines).map String.toList) next ∧
      next.place ≠ .outside ∧ next.listings = state.listings ++ caches := by
  induction caches generalizing state with
  | nil => exact ⟨state, .nil state, hplace, (List.append_nil _).symm⟩
  | cons cache rest ih =>
      have hnew : cache.id ∉ state.listings.map Cache.id := Cache.id_not_mem_of_nodup hnodup
      obtain ⟨next, hcache, hnext, hlistings⟩ := exists_readsQuietly_cache hplace hnew
      have hnodup' : ((next.listings ++ rest).map Cache.id).Nodup := by
        rwa [hlistings, List.append_assoc, List.singleton_append]
      obtain ⟨final, hrest, hfinal, hall⟩ := ih hnext hnodup'
      refine ⟨final, ?_, hfinal, ?_⟩
      · rw [List.flatMap_cons, List.map_append]
        exact hcache.append hrest
      · rw [hall, hlistings, List.append_assoc, List.singleton_append]

/-- The lines of the dump of a snapshot lead to a state outside sections, with the
caches of the snapshot as listings. -/
theorem exists_readsQuietly_dump (snapshot : Snapshot) :
    ∃ final, initial.ReadsQuietly (snapshot.dumpLines.map String.toList) final ∧
      final.place = .outside ∧ final.listings = snapshot.caches := by
  let opened := initial.goTo .unlisted
  have hopened : opened.place ≠ .outside := by
    rw [place_goTo]
    exact nofun
  have hnone : opened.listings = [] := rfl
  have hnodup : ((opened.listings ++ snapshot.caches).map Cache.id).Nodup := by
    rw [hnone]
    exact snapshot.nodup_ids
  obtain ⟨next, hcaches, hnext, hlistings⟩ := exists_readsQuietly_caches hopened hnodup
  have hopening := readsQuietly_sectionOpening initial rfl
  refine ⟨next.goTo .outside, ?_, place_goTo next .outside, ?_⟩
  · have hlines := (hopening.append hcaches).append (readsQuietly_sectionClosing hnext)
    simpa [Snapshot.dumpLines] using hlines
  · rw [listings_goTo_outside, hlistings, hnone, List.nil_append]

end Dump.State

/-- The dump of a snapshot is read back as the snapshot, without a warning. -/
theorem read_dump_without_warning (snapshot : Snapshot) :
    Dump.read snapshot.dump = .ok snapshot ∧
      ∀ notice ∈ Dump.notices snapshot.dump, notice.entry.level ≠ .warn := by
  obtain ⟨final, hreads, houtside, hlistings⟩ :=
    Dump.State.exists_readsQuietly_dump snapshot
  constructor
  · rw [Dump.read, Dump.lines_dump, Dump.readLines, hreads.run_eq 1, Except.map,
      Dump.State.snapshot, hlistings, snapshot.ofCaches_caches]
  · rw [Dump.notices, Dump.lines_dump, Dump.lineNotices]
    exact hreads.level_ne_warn houtside 1

end CacheCoherence
