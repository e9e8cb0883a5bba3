import CacheCoherence.Proofs.Dump.Gating

/-!
# Two dumps in one text

A text that ends outside sections can have any other text behind it.  What the reader has
listed so far does not matter to any of its steps, so that the second text is read as it
would be on its own, behind the listings of the first and with the line numbers moved.

The snapshot of both texts is made from all listings at once; it is the same when each
text has been made into a snapshot before.
-/

namespace CacheCoherence.Dump

open Text

namespace State

/-! ## Listings of an earlier text -/

/-- The reader at the same place, with these listings in front of its own. -/
def behind (state : State) (earlier : Array Cache) : State :=
  ⟨earlier ++ state.complete, state.place⟩

theorem listings_behind (state : State) (earlier : Array Cache) :
    (state.behind earlier).listings = earlier.toList ++ state.listings := by
  have hopen : (state.behind earlier).openListing? = state.openListing? := rfl
  rw [listings, listings, hopen, behind, Array.toList_append, List.append_assoc]

theorem goTo_behind (state : State) (earlier : Array Cache) (place : Place) :
    (state.behind earlier).goTo place = (state.goTo place).behind earlier := by
  have hopen : (state.behind earlier).openListing? = state.openListing? := rfl
  rw [goTo, goTo, hopen]
  cases state.openListing? with
  | none => rfl
  | some cache => simp only [behind, Array.push_append]

theorem addRecord_behind (state : State) (earlier : Array Cache) (literal : Text) :
    (state.behind earlier).addRecord literal =
      (state.addRecord literal).map fun next => next.behind earlier := by
  obtain ⟨complete, place⟩ := state
  cases place with
  | outside => rfl
  | unlisted => rfl
  | listing id records =>
      rw [behind, addRecord, addRecord]
      cases readRecord literal with
      | error error => rfl
      | ok record => rfl

/-- A line does the same whatever has been listed before. -/
theorem step_behind (state : State) (earlier : Array Cache) (kind : LineKind) :
    (state.behind earlier).step kind =
      (state.step kind).map fun next => next.behind earlier := by
  have hplace : (state.behind earlier).place = state.place := rfl
  rw [step, step, hplace]
  split
  next houtside =>
    split
    · rw [goTo_behind]
      rfl
    · rfl
  next hinside =>
    cases kind with
    | sectionOpen => rfl
    | sectionClose =>
        rw [stepInside, goTo_behind]
        rfl
    | header id =>
        rw [stepInside, goTo_behind]
        rfl
    | malformedHeader => rfl
    | record literal => exact addRecord_behind state earlier literal
    | blank => rfl
    | other => rfl

theorem run_behind (state : State) (earlier : Array Cache) (first : Nat) (lines : List Text) :
    (state.behind earlier).run first lines =
      (state.run first lines).map fun final => final.behind earlier := by
  induction lines generalizing state first with
  | nil => rfl
  | cons line rest ih =>
      rw [run, run, step_behind]
      cases state.step (LineKind.of line) with
      | error cause => rfl
      | ok next => exact ih next (first + 1)

/-! ## Reading on outside sections -/

theorem eq_behind_of_outside {state : State} (houtside : state.place = .outside) :
    state = initial.behind state.complete := by
  rw [behind, initial, ← houtside, Array.append_empty]

theorem listings_of_outside {state : State} (houtside : state.place = .outside) :
    state.listings = state.complete.toList := by
  rw [listings, openListing?, houtside]
  exact List.append_nil _

/-- Outside sections the reader goes on as if it had just begun. -/
theorem run_of_place_outside
    {state : State} (houtside : state.place = .outside) (count : Nat) (lines : List Text) :
    state.run (1 + count) lines =
      ((initial.run 1 lines).mapError fun error => error.below count).map
        fun final => final.behind state.complete := by
  conv_lhs => rw [eq_behind_of_outside houtside]
  rw [run_behind, run_add]

theorem snapshot_behind
    {state : State} (houtside : state.place = .outside) (final : State) :
    (final.behind state.complete).snapshot =
      .ofCaches (state.snapshot.caches ++ final.snapshot.caches) := by
  rw [snapshot, listings_behind, ← listings_of_outside houtside, Snapshot.ofCaches_append,
    snapshot, snapshot]

end State

/-! ## Both texts -/

theorem readLines_append
    {front : List Text} {before : Snapshot} (hread : readLines front = .ok before)
    (hclosed : EndsOutside front) (back : List Text) :
    readLines (front ++ back) =
      ((readLines back).mapError fun error => error.below front.length).map
        fun after => .ofCaches (before.caches ++ after.caches) := by
  obtain ⟨final, hrun, houtside⟩ := hclosed
  have hbefore : before = final.snapshot := by
    rw [readLines_of_run hrun] at hread
    exact (Except.ok.inj hread).symm
  rw [readLines, State.run_append_of_ok hrun, State.run_of_place_outside houtside, readLines]
  cases State.initial.run 1 back with
  | error error => rfl
  | ok last =>
      rw [hbefore]
      exact congrArg Except.ok (State.snapshot_behind houtside last)

theorem endsWithFeed_toList {text : String} (h : text = "" ∨ ∃ body, text = body ++ "\n") :
    EndsWithFeed text.toList := by
  rcases h with rfl | ⟨body, rfl⟩
  · exact Or.inl rfl
  · exact Or.inr ⟨body.toList, String.toList_append⟩

/-- Behind a text of whole lines with all sections closed, another text is read as on its
own: a cache of both keeps its place in the first and has its records of the second, and
the lines of the first count for the number of a line with an error. -/
theorem read_append
    {front : String} {before : Snapshot} (hread : read front = .ok before)
    (hfeed : front = "" ∨ ∃ body, front = body ++ "\n")
    (hclosed : EndsOutside (lines front.toList)) (back : String) :
    (∀ after, read back = .ok after →
      ∃ both, read (front ++ back) = .ok both ∧
        both = .ofCaches (before.caches ++ after.caches) ∧
        both.ids = before.ids ++ after.ids.filter (fun id => id ∉ before.ids) ∧
        ∀ id, both.records? id = (after.records? id).or (before.records? id)) ∧
    ∀ error, read back = .error error →
      read (front ++ back) = .error (error.below (lines front.toList).length) := by
  have hboth : read (front ++ back) =
      ((read back).mapError fun error => error.below (lines front.toList).length).map
        fun after => .ofCaches (before.caches ++ after.caches) := by
    rw [read, String.toList_append, lines_append (endsWithFeed_toList hfeed),
      readLines_append hread hclosed, read]
  constructor
  · intro after hafter
    refine ⟨.ofCaches (before.caches ++ after.caches), ?_, rfl, ?_, ?_⟩
    · rw [hboth, hafter]
      rfl
    · rw [Snapshot.ids_ofCaches_append, Snapshot.ofCaches_caches, Snapshot.ofCaches_caches]
    · intro id
      rw [Snapshot.records?_ofCaches_append, Snapshot.ofCaches_caches, Snapshot.ofCaches_caches]
  · intro error herror
    rw [hboth, herror]
    rfl

set_option maxRecDepth 2000 in
/-- The second of two texts lists a cache of the first again, and an error in it is found
below the lines of the first. -/
theorem read_append_relisted :
    (∃ both, read ("CACHE CONTENT\nCache 1:\nCache 0:\nCACHE END\n" ++
        "CACHE CONTENT\nCache 2:\nCache 1:\nCacheLine\x7bset_index:2,tag:5,last_used:1,status:M\x7d") =
          .ok both ∧
      both.ids = [⟨1⟩, ⟨0⟩, ⟨2⟩] ∧ both.records? ⟨1⟩ = some [⟨2, 5, 1, .modified⟩]) ∧
    read ("CACHE CONTENT\nCache 1:\nCache 0:\nCACHE END\n" ++ "CACHE CONTENT\nhello\r\n") =
      .error ⟨6, "hello", .unexpectedLine⟩ := by
  have hrun : State.initial.run 1 (lines "CACHE CONTENT\nCache 1:\nCache 0:\nCACHE END\n".toList) =
      .ok ⟨#[⟨⟨1⟩, []⟩, ⟨⟨0⟩, []⟩], .outside⟩ := rfl
  have hafter : read
      "CACHE CONTENT\nCache 2:\nCache 1:\nCacheLine\x7bset_index:2,tag:5,last_used:1,status:M\x7d" =
        .ok (.ofCaches [⟨⟨2⟩, []⟩, ⟨⟨1⟩, [⟨2, 5, 1, .modified⟩]⟩]) := rfl
  have happend := read_append (readLines_of_run hrun)
    (Or.inr ⟨"CACHE CONTENT\nCache 1:\nCache 0:\nCACHE END", by decide⟩) ⟨_, hrun, rfl⟩
  constructor
  · obtain ⟨both, hboth, -, hids, hrecords⟩ := (happend _).1 _ hafter
    exact ⟨both, hboth, hids, hrecords ⟨1⟩⟩
  · exact (happend _).2 ⟨2, "hello", .unexpectedLine⟩ rfl

end CacheCoherence.Dump
