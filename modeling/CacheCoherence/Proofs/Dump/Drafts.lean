import CacheCoherence.Proofs.Dump.Beginning
import CacheCoherence.Proofs.Dump.RecordLines

/-!
# Drafts of a snapshot

The reader keeps each listing apart and makes a snapshot of them at the end.  One can as
well work on the snapshot itself: a draft has one entry for each cache so far, and beside the
entries it says whether a section is open and which cache is active, that is, being listed.
A header makes an entry, or empties the one that there is, and a record goes into the entry
of the active cache.

The three parts of a draft are changed by different lines, and nothing in a draft as such
keeps them together: if the active cache had no entry, a record would get lost without an
error.  This does not happen.  Every line keeps the active cache among the entries and no
cache has two of them, so that each record that is read makes one entry longer.
-/

namespace CacheCoherence

/-- Adds a record to the first entry of a cache; it gets lost when there is none. -/
def Record.addInto (record : Record) (id : CacheId) : List Cache → List Cache
  | [] => []
  | cache :: rest =>
    if cache.id = id then ⟨id, cache.records ++ [record]⟩ :: rest
    else cache :: record.addInto id rest

namespace Record

variable (record : Record)

theorem ids_addInto (id : CacheId) (caches : List Cache) :
    (record.addInto id caches).map Cache.id = caches.map Cache.id := by
  induction caches with
  | nil => rfl
  | cons cache rest ih =>
      rw [addInto]
      split
      next hid => rw [List.map_cons, List.map_cons, hid]
      next => rw [List.map_cons, List.map_cons, ih]

theorem addInto_putInto (id : CacheId) (records : List Record) (caches : List Cache) :
    record.addInto id (Cache.putInto ⟨id, records⟩ caches) =
      Cache.putInto ⟨id, records ++ [record]⟩ caches := by
  induction caches with
  | nil => rw [Cache.putInto, addInto, if_pos rfl, Cache.putInto]
  | cons cache rest ih =>
      rw [Cache.putInto, Cache.putInto]
      split
      next => rw [addInto, if_pos rfl]
      next hid => rw [addInto, if_neg hid, ih]

/-- A record is added at the end of one entry, and all other entries stay. -/
theorem exists_addInto {id : CacheId} {caches : List Cache} (hlisted : id ∈ caches.map Cache.id) :
    ∃ front records back, caches = front ++ ⟨id, records⟩ :: back ∧
      record.addInto id caches = front ++ ⟨id, records ++ [record]⟩ :: back := by
  induction caches with
  | nil => exact absurd hlisted List.not_mem_nil
  | cons cache rest ih =>
      rw [addInto]
      by_cases hid : cache.id = id
      · subst hid
        rw [if_pos rfl]
        exact ⟨[], cache.records, rest, rfl, rfl⟩
      · have hrest : id ∈ rest.map Cache.id :=
          (List.mem_cons.mp hlisted).resolve_left (Ne.symm hid)
        obtain ⟨front, records, back, hcaches, hadded⟩ := ih hrest
        rw [if_neg hid, hadded]
        exact ⟨cache :: front, records, back, congrArg (List.cons cache) hcaches, rfl⟩

end Record

namespace Dump

/-- What has been read, as a snapshot in the making. -/
structure Draft where
  caches : List Cache
  inside : Bool
  active? : Option CacheId
  deriving DecidableEq, Repr

namespace Draft

/-- The draft before the first line. -/
def initial : Draft :=
  ⟨[], false, none⟩

def addRecord (draft : Draft) (literal : Text) : Except LineError Draft :=
  match draft.active? with
  | none => .error .recordOutsideCache
  | some id =>
    match readRecord literal with
    | .ok record => .ok { draft with caches := record.addInto id draft.caches }
    | .error error => .error (.literal error)

/-- The effect of a line of this kind inside a section. -/
def stepInside (draft : Draft) : LineKind → Except LineError Draft
  | .sectionOpen => .ok draft
  | .sectionClose => .ok { draft with inside := false, active? := none }
  | .blank => .ok draft
  | .header id =>
    .ok { draft with caches := Cache.putInto ⟨id, []⟩ draft.caches, active? := some id }
  | .record literal => draft.addRecord literal
  | .malformedHeader => .error .malformedHeader
  | .other => .error .unexpectedLine

/-- The effect of a line of this kind. -/
def step (draft : Draft) (kind : LineKind) : Except LineError Draft :=
  if draft.inside then
    draft.stepInside kind
  else
    if kind = .sectionOpen then .ok { draft with inside := true } else .ok draft

/-- Reads lines, the first of which has the number `first`. -/
def run (draft : Draft) (first : Nat) : List Text → Except ReadError Draft
  | [] => .ok draft
  | line :: rest =>
    match draft.step (LineKind.of line) with
    | .ok next => next.run (first + 1) rest
    | .error cause => .error (ReadError.at first line cause)

/-! ## What every line keeps -/

/-- A cache is active only while a section is open and has an entry then, and no cache has two
entries. -/
structure IsSound (draft : Draft) : Prop where
  inside : ∀ id, draft.active? = some id → draft.inside = true
  listed : ∀ id, draft.active? = some id → id ∈ draft.caches.map Cache.id
  nodup_ids : (draft.caches.map Cache.id).Nodup

theorem isSound_initial : initial.IsSound :=
  ⟨nofun, nofun, List.nodup_nil⟩

theorem addRecord_eq_ok_iff {draft next : Draft} {literal : Text} :
    draft.addRecord literal = .ok next ↔
      ∃ id record, draft.active? = some id ∧ readRecord literal = .ok record ∧
        next = { draft with caches := record.addInto id draft.caches } := by
  unfold addRecord
  cases draft.active? with
  | none => simp
  | some id =>
      cases readRecord literal with
      | error error => simp
      | ok record => simp [eq_comm]

namespace IsSound

variable {draft next : Draft}

theorem stepInside
    (h : draft.IsSound) (hinside : draft.inside = true) {kind : LineKind}
    (hstep : draft.stepInside kind = .ok next) : next.IsSound := by
  cases kind with
  | sectionOpen =>
      cases hstep
      exact h
  | sectionClose =>
      cases hstep
      exact ⟨nofun, nofun, h.nodup_ids⟩
  | header id =>
      cases hstep
      refine ⟨fun _ _ => hinside, fun other hactive => ?_, Cache.nodup_ids_putInto _ h.nodup_ids⟩
      cases hactive
      rw [Cache.ids_putInto]
      split
      next hlisted => exact hlisted
      next => exact List.mem_append_right _ List.mem_cons_self
  | malformedHeader => cases hstep
  | record literal =>
      obtain ⟨id, record, -, -, rfl⟩ := addRecord_eq_ok_iff.mp hstep
      have hids := record.ids_addInto id draft.caches
      exact ⟨h.inside, hids ▸ h.listed, hids ▸ h.nodup_ids⟩
  | blank =>
      cases hstep
      exact h
  | other => cases hstep

theorem step (h : draft.IsSound) {kind : LineKind} (hstep : draft.step kind = .ok next) :
    next.IsSound := by
  unfold Draft.step at hstep
  split at hstep
  next hinside => exact h.stepInside hinside hstep
  next houtside =>
    split at hstep
    next =>
      cases hstep
      exact ⟨fun _ _ => rfl, h.listed, h.nodup_ids⟩
    next =>
      cases hstep
      exact h

theorem run
    {first : Nat} {lines : List Text} (h : draft.IsSound)
    (hrun : draft.run first lines = .ok next) : next.IsSound := by
  induction lines generalizing draft first with
  | nil =>
      cases hrun
      exact h
  | cons line rest ih =>
      rw [Draft.run] at hrun
      cases hstep : draft.step (LineKind.of line) with
      | error cause =>
          rw [hstep] at hrun
          cases hrun
      | ok following =>
          rw [hstep] at hrun
          exact ih (h.step hstep) hrun

/-- A record line that fits makes the entry of the active cache longer by its record. -/
theorem exists_of_record
    (h : draft.IsSound) (hinside : draft.inside = true) {literal : Text}
    (hstep : draft.step (.record literal) = .ok next) :
    ∃ id record front records back, draft.active? = some id ∧ readRecord literal = .ok record ∧
      draft.caches = front ++ ⟨id, records⟩ :: back ∧
      next = { draft with caches := front ++ ⟨id, records ++ [record]⟩ :: back } := by
  rw [Draft.step, if_pos hinside, Draft.stepInside] at hstep
  obtain ⟨id, record, hactive, hread, rfl⟩ := addRecord_eq_ok_iff.mp hstep
  obtain ⟨front, records, back, hcaches, hadded⟩ := record.exists_addInto (h.listed id hactive)
  exact ⟨id, record, front, records, back, hactive, hread, hcaches, by rw [hadded]⟩

end IsSound

end Draft

/-! ## The draft of a state of the reader -/

namespace State

/-- The cache that is being listed. -/
def active? (state : State) : Option CacheId :=
  state.openListing?.map Cache.id

def draft (state : State) : Draft :=
  ⟨state.snapshot.caches, state.place ≠ .outside, state.active?⟩

theorem draft_goTo (state : State) (place : Place) :
    (state.goTo place).draft =
      ⟨(Snapshot.ofCaches (state.listings ++ (openListing? ⟨#[], place⟩).toList)).caches,
        place ≠ .outside, active? ⟨#[], place⟩⟩ := by
  have hopen : (state.goTo place).openListing? = openListing? ⟨#[], place⟩ := by
    rw [openListing?, place_goTo, openListing?]
  rw [draft, snapshot, listings_goTo, place_goTo, active?, hopen]
  rfl

theorem draft_goTo_unlisted (state : State) :
    (state.goTo .unlisted).draft = ⟨state.snapshot.caches, true, none⟩ := by
  have hopen : openListing? ⟨#[], .unlisted⟩ = none := rfl
  rw [draft_goTo, hopen, Option.toList_none, List.append_nil]
  rfl

theorem draft_goTo_outside (state : State) :
    (state.goTo .outside).draft = ⟨state.snapshot.caches, false, none⟩ := by
  have hopen : openListing? ⟨#[], .outside⟩ = none := rfl
  rw [draft_goTo, hopen, Option.toList_none, List.append_nil]
  rfl

theorem draft_goTo_listing (state : State) (id : CacheId) :
    (state.goTo (.listing id #[])).draft =
      ⟨Cache.putInto ⟨id, []⟩ state.snapshot.caches, true, some id⟩ := by
  have hopen : openListing? ⟨#[], .listing id #[]⟩ = some ⟨id, []⟩ := rfl
  rw [draft_goTo, hopen, Option.toList_some, Snapshot.ofCaches_concat]
  rfl

theorem draft_push (complete : Array Cache) (id : CacheId) (records : Array Record)
    (record : Record) :
    let listing := draft ⟨complete, .listing id records⟩
    draft ⟨complete, .listing id (records.push record)⟩ =
      { listing with caches := record.addInto id listing.caches } := by
  have hcaches : (snapshot ⟨complete, .listing id (records.push record)⟩).caches =
      record.addInto id (snapshot ⟨complete, .listing id records⟩).caches := by
    rw [snapshot_listing, snapshot_listing, Array.toList_push]
    exact (record.addInto_putInto id records.toList _).symm
  intro listing
  rw [draft, hcaches]
  rfl

theorem draft_addRecord (state : State) (literal : Text) (hinside : state.place ≠ .outside) :
    state.draft.addRecord literal = (state.addRecord literal).map draft := by
  obtain ⟨complete, place⟩ := state
  cases place with
  | outside => exact absurd rfl hinside
  | unlisted => rfl
  | listing id records =>
      have hactive : (draft ⟨complete, .listing id records⟩).active? = some id := rfl
      rw [Draft.addRecord, hactive, addRecord]
      dsimp only
      cases readRecord literal with
      | error error => rfl
      | ok record => exact congrArg Except.ok (draft_push complete id records record).symm

/-- A line takes the draft of the reader where it takes the reader. -/
theorem draft_step (state : State) (kind : LineKind) :
    state.draft.step kind = (state.step kind).map draft := by
  by_cases hplace : state.place = .outside
  · have hinside : state.draft.inside = false := by simp [draft, hplace]
    have hactive : state.active? = none := by
      rw [active?, openListing?, hplace]
      rfl
    rw [Draft.step, hinside, step, if_pos hplace]
    by_cases hkind : kind = .sectionOpen
    · rw [if_pos hkind, if_pos hkind, Except.map, draft_goTo_unlisted, draft, hactive]
      rfl
    · rw [if_neg hkind, if_neg hkind]
      rfl
  · have hinside : state.draft.inside = true := by simp [draft, hplace]
    rw [Draft.step, if_pos hinside, step, if_neg hplace]
    cases kind with
    | sectionOpen => rfl
    | sectionClose => rw [stepInside, Except.map, draft_goTo_outside]; rfl
    | header id =>
        rw [stepInside, Except.map, draft_goTo_listing, Draft.stepInside, ← hinside]
        rfl
    | malformedHeader => rfl
    | record literal => exact state.draft_addRecord literal hplace
    | blank => rfl
    | other => rfl

/-- The reader and the drafts go through all lines with the same errors. -/
theorem draft_run (state : State) (first : Nat) (lines : List Text) :
    state.draft.run first lines = (state.run first lines).map draft := by
  induction lines generalizing state first with
  | nil => rfl
  | cons line rest ih =>
      rw [Draft.run, run, draft_step]
      cases state.step (LineKind.of line) with
      | error cause => rfl
      | ok next => exact ih next (first + 1)

end State

/-- The reader goes through any lines as the drafts do.  In each draft that it comes to, an
active cache has an entry and a section is open, and no cache has two entries.  So a record
line in a section, if there is no error, makes the entry of the active cache longer by one
record at its end and changes nothing else. -/
theorem Draft.run_initial_loses_no_record (lines : List Text) :
    initial.run 1 lines = (State.initial.run 1 lines).map State.draft ∧
      ∀ draft, initial.run 1 lines = .ok draft →
        (∀ id, draft.active? = some id →
          draft.inside = true ∧ id ∈ draft.caches.map Cache.id) ∧
        (draft.caches.map Cache.id).Nodup ∧
        ∀ line literal next, draft.inside = true → LineKind.of line = .record literal →
          draft.step (LineKind.of line) = .ok next →
            ∃ id record front records back,
              draft.active? = some id ∧ readRecord literal = .ok record ∧
              draft.caches = front ++ ⟨id, records⟩ :: back ∧
              next = { draft with caches := front ++ ⟨id, records ++ [record]⟩ :: back } := by
  refine ⟨State.initial.draft_run 1 lines, fun draft hrun => ?_⟩
  have hsound : draft.IsSound := isSound_initial.run hrun
  refine ⟨fun id hactive => ⟨hsound.inside id hactive, hsound.listed id hactive⟩,
    hsound.nodup_ids, ?_⟩
  intro line literal next hinside hkind hstep
  rw [hkind] at hstep
  exact hsound.exists_of_record hinside hstep

/-- The first of two caches is listed again, behind another opening marker. -/
theorem Draft.run_initial_loses_no_record_listed_again :
    let lines := ["CACHE CONTENT", "Cache 4:",
      "\tCacheLine\x7bset_index: 0, tag: 1, last_used: 2, status: M\x7d", "Cache 7:",
      "CACHE CONTENT", "Cache 4: "].map String.toList
    let line := "\tCacheLine\x7bset_index: 5, tag: 1, last_used: 3, status: S\x7d".toList
    let draft : Draft := ⟨[⟨⟨4⟩, []⟩, ⟨⟨7⟩, []⟩], true, some ⟨4⟩⟩
    let next : Draft := ⟨[⟨⟨4⟩, [⟨5, 1, 3, .shared⟩]⟩, ⟨⟨7⟩, []⟩], true, some ⟨4⟩⟩
    initial.run 1 lines = .ok draft ∧ draft.step (LineKind.of line) = .ok next ∧
      ∃ record front records back, draft.caches = front ++ ⟨⟨4⟩, records⟩ :: back ∧
        next.caches = front ++ ⟨⟨4⟩, records ++ [record]⟩ :: back := by
  intro lines line draft next
  have hrun : initial.run 1 lines = .ok draft := by decide +kernel
  have hkind : LineKind.of line = .record (line.drop 1) := by decide +kernel
  have hstep : draft.step (LineKind.of line) = .ok next := by decide +kernel
  obtain ⟨id, record, front, records, back, hactive, -, hcaches, hnext⟩ :=
    ((run_initial_loses_no_record lines).2 draft hrun).2.2 line _ next rfl hkind hstep
  cases hactive
  exact ⟨hrun, hstep, record, front, records, back, hcaches, congrArg Draft.caches hnext⟩

end Dump

end CacheCoherence
