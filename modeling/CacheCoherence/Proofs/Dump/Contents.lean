import CacheCoherence.Proofs.Dump.Sections
import CacheCoherence.Proofs.Snapshot.Relisting
import Mathlib.Data.List.Basic

/-!
# What a dump says

The contents of a cache are the records between the last header of the cache and
the line that ends its listing, and the caches stand in the order of their first
headers.  This is what the reader returns of a dump that it accepts.

Wherever the reader stands, the lines ahead of it foretell the listings that there
will be at the end.  No move changes what they foretell, so that the listings of the
final state are those foretold at the start.
-/

namespace CacheCoherence.Dump

/-- The cache that a line is the header of. -/
def LineKind.header? : LineKind → Option CacheId
  | header id => some id
  | _ => none

/-- The record that a line holds. -/
def LineKind.record? : LineKind → Option Record
  | record literal => (readRecord literal).toOption
  | _ => none

/-- The records on the lines up to the next header. -/
def recordsBelow (kinds : List LineKind) : List Record :=
  (kinds.takeWhile fun kind => kind.header? = none).filterMap LineKind.record?

/-- The listings in a section, one for each header. -/
def listingsIn : List LineKind → List Cache
  | [] => []
  | kind :: below =>
    match kind.header? with
    | some id => ⟨id, recordsBelow below⟩ :: listingsIn below
    | none => listingsIn below

/-- These lines of a section stand below the last header of a cache. -/
def BelowLastHeader (parts : List (List LineKind)) (id : CacheId) (below : List LineKind) :
    Prop :=
  ∃ earlier above later, parts = earlier ++ (above ++ .header id :: below) :: later ∧
    .header id ∉ below ∧ ∀ part ∈ later, .header id ∉ part

/-! ## Listings line by line -/

theorem recordsBelow_header (id : CacheId) (rest : List LineKind) :
    recordsBelow (.header id :: rest) = [] := rfl

theorem recordsBelow_record
    {literal : Text} {record : Record} (hread : readRecord literal = .ok record)
    (rest : List LineKind) :
    recordsBelow (.record literal :: rest) = record :: recordsBelow rest := by
  have hrecord : (LineKind.record literal).record? = some record := by
    rw [LineKind.record?, hread]
    rfl
  exact List.filterMap_cons_some hrecord

theorem recordsBelow_stay
    {kind : LineKind} (hkind : kind = .sectionOpen ∨ kind = .blank) (rest : List LineKind) :
    recordsBelow (kind :: rest) = recordsBelow rest := by
  rcases hkind with rfl | rfl <;> rfl

theorem listingsIn_stay
    {kind : LineKind} (hkind : kind = .sectionOpen ∨ kind = .blank) (rest : List LineKind) :
    listingsIn (kind :: rest) = listingsIn rest := by
  rcases hkind with rfl | rfl <;> rfl

theorem ids_listingsIn (kinds : List LineKind) :
    (listingsIn kinds).map Cache.id = kinds.filterMap LineKind.header? := by
  induction kinds with
  | nil => rfl
  | cons kind below ih =>
      rw [listingsIn]
      cases hheader : kind.header? with
      | none => rw [List.filterMap_cons_none hheader, ih]
      | some id => rw [List.filterMap_cons_some hheader, List.map_cons, ih]

theorem exists_listingsIn_append_header (above below : List LineKind) (id : CacheId) :
    ∃ front, listingsIn (above ++ .header id :: below) =
      front ++ ⟨id, recordsBelow below⟩ :: listingsIn below := by
  induction above with
  | nil => exact ⟨[], rfl⟩
  | cons kind above ih =>
      obtain ⟨front, hfront⟩ := ih
      rw [List.cons_append, listingsIn, hfront]
      cases kind.header? with
      | none => exact ⟨front, rfl⟩
      | some id' => exact ⟨_ :: front, rfl⟩

/-! ## The listings ahead -/

namespace State

/-- The open listing as it will be complete, with the records ahead of it. -/
def openListingWith (state : State) (ahead : List LineKind) : List Cache :=
  state.openListing?.toList.map fun cache =>
    ⟨cache.id, cache.records ++ recordsBelow ahead⟩

theorem openListingWith_of_recordsBelow_eq_nil
    {ahead : List LineKind} (hnone : recordsBelow ahead = []) (state : State) :
    state.openListingWith ahead = state.openListing?.toList := by
  rw [openListingWith, hnone]
  simp only [List.append_nil, List.map_id']

/-- The listings at the end, as the lines ahead foretell them. -/
def foretold (state : State) (kinds : List LineKind) : List Cache :=
  if state.place = .outside then
    state.listings ++ (sections kinds).flatMap listingsIn
  else
    state.complete.toList ++ state.openListingWith (upToClosing kinds) ++
      listingsIn (upToClosing kinds) ++ (sections (fromClosing kinds)).flatMap listingsIn

theorem foretold_of_outside
    {state : State} (houtside : state.place = .outside) (kinds : List LineKind) :
    state.foretold kinds = state.listings ++ (sections kinds).flatMap listingsIn :=
  if_pos houtside

theorem foretold_of_inside
    {state : State} (hinside : state.place ≠ .outside) (kinds : List LineKind) :
    state.foretold kinds =
      state.complete.toList ++ state.openListingWith (upToClosing kinds) ++
        listingsIn (upToClosing kinds) ++ (sections (fromClosing kinds)).flatMap listingsIn :=
  if_neg hinside

theorem foretold_nil (state : State) : state.foretold [] = state.listings := by
  have hnone : (sections []).flatMap listingsIn = [] := by
    rw [sections_nil, List.flatMap_nil]
  by_cases hplace : state.place = .outside
  · rw [foretold_of_outside hplace, hnone, List.append_nil]
  · have hopen : state.openListingWith (upToClosing []) = state.openListing?.toList :=
      openListingWith_of_recordsBelow_eq_nil rfl state
    have hends : listingsIn (upToClosing []) = [] := rfl
    have hfrom : fromClosing [] = [] := rfl
    rw [foretold_of_inside hplace, hopen, hends, hfrom, hnone, List.append_nil,
      List.append_nil, listings]

/-- Going to a place inside a section completes the open listing. -/
theorem foretold_goTo
    (state : State) {place : Place} (hplace : place ≠ .outside) (kinds : List LineKind) :
    (state.goTo place).foretold kinds =
      state.listings ++ openListingWith ⟨#[], place⟩ (upToClosing kinds) ++
        listingsIn (upToClosing kinds) ++ (sections (fromClosing kinds)).flatMap listingsIn := by
  have hinside : (state.goTo place).place ≠ .outside := by
    rwa [place_goTo]
  have hopen : (state.goTo place).openListing? = openListing? ⟨#[], place⟩ := by
    rw [openListing?, place_goTo, openListing?]
  rw [foretold_of_inside hinside, complete_goTo, openListingWith, hopen, openListingWith]

/-- What the lines ahead foretell comes true line by line. -/
theorem Moves.foretold_eq
    {state next : State} {kind : LineKind} (hmoves : state.Moves kind next)
    (rest : List LineKind) : next.foretold rest = state.foretold (kind :: rest) := by
  cases hmoves with
  | pass houtside hkind =>
      rw [foretold_of_outside houtside, foretold_of_outside houtside, sections_cons hkind]
  | enter houtside =>
      have hplace : Place.unlisted ≠ .outside := by simp
      have hopen : openListingWith ⟨#[], .unlisted⟩ (upToClosing rest) = [] := rfl
      rw [foretold_goTo state hplace, foretold_of_outside houtside, hopen, sections_opening,
        List.flatMap_cons, List.append_nil, List.append_assoc]
  | stay hinside hkind =>
      have hclose : kind ≠ .sectionClose := by
        rcases hkind with rfl | rfl <;> simp
      have hopen : state.openListingWith (kind :: upToClosing rest) =
          state.openListingWith (upToClosing rest) := by
        rw [openListingWith, recordsBelow_stay hkind, openListingWith]
      rw [foretold_of_inside hinside, foretold_of_inside hinside, upToClosing_cons hclose,
        fromClosing_cons hclose, hopen, listingsIn_stay hkind]
  | leave hinside =>
      have hopen : state.openListingWith [] = state.openListing?.toList :=
        openListingWith_of_recordsBelow_eq_nil rfl state
      have hends : listingsIn [] = [] := rfl
      rw [foretold_of_outside (place_goTo state .outside), listings_goTo_outside,
        foretold_of_inside hinside, upToClosing_closing, sections_fromClosing_closing, hopen,
        hends, List.append_nil, listings]
  | list hinside id =>
      have hplace : Place.listing id #[] ≠ .outside := by simp
      have hclose : LineKind.header id ≠ .sectionClose := by simp
      -- The open listing gets no more records, and the new one has those up to the next header.
      have hopen : state.openListingWith (.header id :: upToClosing rest) =
          state.openListing?.toList :=
        openListingWith_of_recordsBelow_eq_nil (recordsBelow_header id _) state
      have hnew : openListingWith ⟨#[], .listing id #[]⟩ (upToClosing rest) =
          [⟨id, recordsBelow (upToClosing rest)⟩] := rfl
      have hlist : listingsIn (.header id :: upToClosing rest) =
          [⟨id, recordsBelow (upToClosing rest)⟩] ++ listingsIn (upToClosing rest) := rfl
      rw [foretold_goTo state hplace, foretold_of_inside hinside, upToClosing_cons hclose,
        fromClosing_cons hclose, hopen, hnew, hlist, listings, List.append_assoc _ [_]]
  | add complete id records hread =>
      rename_i literal record
      have hbefore : Place.listing id records ≠ .outside := by simp
      have hafter : Place.listing id (records.push record) ≠ .outside := by simp
      have hclose : LineKind.record literal ≠ .sectionClose := by simp
      -- The record goes from the lines ahead to the end of the open listing.
      have hopen : openListingWith ⟨complete, .listing id (records.push record)⟩
          (upToClosing rest) = openListingWith ⟨complete, .listing id records⟩
            (.record literal :: upToClosing rest) := by
        simp [openListingWith, openListing?, recordsBelow_record hread]
      have hlist : listingsIn (.record literal :: upToClosing rest) =
          listingsIn (upToClosing rest) := rfl
      rw [foretold_of_inside hafter, foretold_of_inside hbefore, upToClosing_cons hclose,
        fromClosing_cons hclose, hopen, hlist]

theorem Reads.listings_eq
    {state final : State} {kinds : List LineKind} (h : state.Reads kinds final) :
    final.listings = state.foretold kinds := by
  induction h with
  | nil state => exact (foretold_nil state).symm
  | cons hmoves _ ih => rw [ih, hmoves.foretold_eq]

end State

/-! ## The snapshot -/

theorem readLines_eq_ofCaches
    {lines : List Text} {snapshot : Snapshot} (h : readLines lines = .ok snapshot) :
    snapshot = .ofCaches ((sections (lines.map LineKind.of)).flatMap listingsIn) := by
  obtain ⟨final, hreads, hsnapshot⟩ := readLines_eq_ok_iff.mp h
  have hlistings : final.listings = (sections (lines.map LineKind.of)).flatMap listingsIn :=
    hreads.listings_eq
  rw [← hsnapshot, State.snapshot, hlistings]

theorem ids_flatMap_listingsIn (parts : List (List LineKind)) :
    (parts.flatMap listingsIn).map Cache.id =
      parts.flatMap fun inside => inside.filterMap LineKind.header? := by
  simp only [List.map_flatMap, ids_listingsIn]

theorem LineKind.header?_eq_some_iff {kind : LineKind} {id : CacheId} :
    kind.header? = some id ↔ kind = .header id := by
  cases kind <;> simp [header?]

theorem mem_headers_iff {parts : List (List LineKind)} {id : CacheId} :
    (id ∈ parts.flatMap fun inside => inside.filterMap LineKind.header?) ↔
      ∃ inside ∈ parts, .header id ∈ inside := by
  simp only [List.mem_flatMap, List.mem_filterMap, LineKind.header?_eq_some_iff,
    exists_eq_right]

/-- The last element with a property divides the list. -/
theorem exists_last {α : Type} {p : α → Prop} {elements : List α}
    (h : ∃ element ∈ elements, p element) :
    ∃ front last back, elements = front ++ last :: back ∧ p last ∧
      ∀ element ∈ back, ¬p element := by
  induction elements with
  | nil =>
      obtain ⟨_, hmem, -⟩ := h
      exact absurd hmem List.not_mem_nil
  | cons first rest ih =>
      by_cases hrest : ∃ element ∈ rest, p element
      · obtain ⟨front, last, back, rfl, hlast, hback⟩ := ih hrest
        exact ⟨first :: front, last, back, rfl, hlast, hback⟩
      · have hfirst : p first := (List.or_exists_of_exists_mem_cons h).resolve_right hrest
        have hback : ∀ element ∈ rest, ¬p element :=
          fun element hmem helement => hrest ⟨element, hmem, helement⟩
        exact ⟨[], first, rest, rfl, hfirst, hback⟩

theorem exists_belowLastHeader
    {parts : List (List LineKind)} {id : CacheId}
    (hlisted : ∃ inside ∈ parts, .header id ∈ inside) :
    ∃ below, BelowLastHeader parts id below := by
  -- The last section with a header of the cache, and the last such header in it.
  obtain ⟨earlier, part, later, rfl, hpart, hlater⟩ := exists_last hlisted
  obtain ⟨above, last, below, rfl, rfl, hbelow⟩ := exists_last ⟨_, hpart, rfl⟩
  exact ⟨below, earlier, above, later, rfl, fun h => hbelow _ h rfl, hlater⟩

namespace BelowLastHeader

variable {parts : List (List LineKind)} {id : CacheId} {below : List LineKind}

theorem exists_last_listing (h : BelowLastHeader parts id below) :
    ∃ front back, parts.flatMap listingsIn = front ++ ⟨id, recordsBelow below⟩ :: back ∧
      id ∉ back.map Cache.id := by
  obtain ⟨earlier, above, later, rfl, hbelow, hlater⟩ := h
  obtain ⟨front, hfront⟩ := exists_listingsIn_append_header above below id
  refine ⟨earlier.flatMap listingsIn ++ front, listingsIn below ++ later.flatMap listingsIn,
    ?_, ?_⟩
  · rw [List.flatMap_append, List.flatMap_cons, hfront]
    simp only [List.append_assoc, List.cons_append]
  · rw [List.map_append, List.mem_append, ids_listingsIn, ids_flatMap_listingsIn,
      mem_headers_iff]
    rintro (hmem | ⟨part, hpart, hmem⟩)
    · obtain ⟨kind, hkind, hheader⟩ := List.mem_filterMap.mp hmem
      rw [LineKind.header?_eq_some_iff] at hheader
      exact hbelow (hheader ▸ hkind)
    · exact hlater part hpart hmem

theorem records?_ofCaches (h : BelowLastHeader parts id below) :
    (Snapshot.ofCaches (parts.flatMap listingsIn)).records? id = some (recordsBelow below) := by
  obtain ⟨front, back, hparts, hlast⟩ := h.exists_last_listing
  rw [hparts]
  exact Snapshot.records?_ofCaches hlast

end BelowLastHeader

/-- A dump is read exactly when each line in its sections fits below the lines above it
there, and the snapshot has the caches of the headers in the order of their first
headers, each with the records that its last header is followed by. -/
theorem readLines_by_sections (lines : List Text) :
    let parts := sections (lines.map LineKind.of)
    ((∃ snapshot, readLines lines = .ok snapshot) ↔
      ∀ inside ∈ parts, ∀ above kind below, inside = above ++ kind :: below →
        Fits above kind) ∧
    ∀ snapshot, readLines lines = .ok snapshot →
      snapshot.ids =
        (parts.flatMap fun inside => inside.filterMap LineKind.header?).eraseDups ∧
      ∀ id ∈ snapshot.ids, ∃ below, BelowLastHeader parts id below ∧
        snapshot.records? id = some (recordsBelow below) := by
  intro parts
  constructor
  · have haccept : (∃ final, State.initial.Reads (lines.map LineKind.of) final) ↔
        ∀ inside ∈ parts, FitBelow [] inside :=
      (State.exists_reads_iff_fitBelow (lines.map LineKind.of)).1 State.initial rfl
    have hread : (∃ snapshot, readLines lines = .ok snapshot) ↔
        ∃ final, State.initial.Reads (lines.map LineKind.of) final := by
      simp only [readLines_eq_ok_iff]
      rw [exists_comm]
      simp only [exists_and_left, exists_eq', and_true]
    exact hread.trans haccept
  · intro snapshot hsnapshot
    have hcontents : snapshot = .ofCaches (parts.flatMap listingsIn) :=
      readLines_eq_ofCaches hsnapshot
    have hids : snapshot.ids =
        (parts.flatMap fun inside => inside.filterMap LineKind.header?).eraseDups := by
      rw [hcontents, Snapshot.ids_ofCaches, ids_flatMap_listingsIn]
    refine ⟨hids, ?_⟩
    intro id hid
    rw [hids, List.mem_eraseDups, mem_headers_iff] at hid
    obtain ⟨below, hbelow⟩ := exists_belowLastHeader hid
    refine ⟨below, hbelow, ?_⟩
    rw [hcontents]
    exact hbelow.records?_ofCaches

end CacheCoherence.Dump
