import CacheCoherence.Proofs.Dump.Contents
import CacheCoherence.Proofs.Dump.Gating
import Mathlib.Data.List.Nodup

/-!
# Warnings of the reader

A cache that is listed again loses the records of its earlier listing, and a section may
still be open at the end of a dump.  The reader warns of both.  The warnings are described
by the lines of a dump alone: each header behind another one of the same cache gives one,
with its line number, and the end of the input gives one when a section is open there.

Every header either adds a cache to the snapshot or gives a warning.  Without a warning
all records are kept, since each record line adds one to the listing that is open and no
listing replaces another.
-/

namespace CacheCoherence.Dump

/-! ## Lines inside sections -/

/-- Whether a section is open behind a line of this kind, when it is known whether one is
open above it. -/
def LineKind.leavesOpen (kind : LineKind) (inside : Bool) : Bool :=
  if inside then kind ≠ .sectionClose else kind = .sectionOpen

/-- Whether a section is open at the end of these lines. -/
def endsInside (kinds : List LineKind) : Bool :=
  kinds.foldl (fun inside kind => kind.leavesOpen inside) false

/-- The lines inside sections with their numbers, where the first of all lines has the
number `first` and `inside` says whether a section is open above it. -/
def linesInside (inside : Bool) (first : Nat) : List LineKind → List (Nat × LineKind)
  | [] => []
  | kind :: rest =>
    (if inside then [(first, kind)] else []) ++
      linesInside (kind.leavesOpen inside) (first + 1) rest

/-- The headers among numbered lines. -/
def headersAmong (lines : List (Nat × LineKind)) : List (Nat × CacheId) :=
  lines.filterMap fun line => line.2.header?.map fun id => (line.1, id)

theorem headersAmong_append (front back : List (Nat × LineKind)) :
    headersAmong (front ++ back) = headersAmong front ++ headersAmong back :=
  List.filterMap_append

def LineKind.isRecord : LineKind → Bool
  | record _ => true
  | _ => false

/-- The headers that have a header of the same cache on an earlier line. -/
def relisted (headers : List (Nat × CacheId)) : List (Nat × CacheId) :=
  headers.filter fun header =>
    headers.any fun earlier => earlier.1 < header.1 && earlier.2 = header.2

/-- The warnings with this message in the log of reading these lines. -/
def warnings (message : String) (lines : List Text) : List Log.Entry :=
  ((lineNotices lines).map Notice.entry).filter fun entry =>
    entry.level = .warn && entry.message = message

theorem le_of_mem_linesInside
    {inside : Bool} {first : Nat} {kinds : List LineKind} {line : Nat × LineKind}
    (hline : line ∈ linesInside inside first kinds) : first ≤ line.1 := by
  induction kinds generalizing inside first with
  | nil => cases hline
  | cons kind rest ih =>
      rw [linesInside, List.mem_append] at hline
      rcases hline with hhere | hbehind
      · cases inside with
        | false => cases hhere
        | true =>
            rw [List.mem_singleton.mp hhere]
      · exact Nat.le_of_succ_le (ih hbehind)

theorem pairwise_linesInside (inside : Bool) (first : Nat) (kinds : List LineKind) :
    (linesInside inside first kinds).Pairwise fun line later => line.1 < later.1 := by
  induction kinds generalizing inside first with
  | nil => exact List.Pairwise.nil
  | cons kind rest ih =>
      have hrest := ih (kind.leavesOpen inside) (first + 1)
      cases inside with
      | false => exact hrest
      | true => exact List.pairwise_cons.mpr ⟨fun _ => le_of_mem_linesInside, hrest⟩

theorem pairwise_headersAmong
    {lines : List (Nat × LineKind)}
    (hlines : lines.Pairwise fun line later => line.1 < later.1) :
    (headersAmong lines).Pairwise fun header later => header.1 < later.1 := by
  refine hlines.filterMap _ ?_
  intro line later hlt header hheader other hother
  obtain ⟨id, -, rfl⟩ := Option.map_eq_some_iff.mp hheader
  obtain ⟨id', -, rfl⟩ := Option.map_eq_some_iff.mp hother
  exact hlt

/-! ## Headers of caches that are listed -/

/-- The headers of caches that are listed already, be it in `listed` or further above. -/
def relistedAfter (listed : List CacheId) : List (Nat × CacheId) → List (Nat × CacheId)
  | [] => []
  | header :: rest =>
    (if header.2 ∈ listed then [header] else []) ++ relistedAfter (listed ++ [header.2]) rest

theorem relistedAfter_append (listed : List CacheId) (front back : List (Nat × CacheId)) :
    relistedAfter listed (front ++ back) =
      relistedAfter listed front ++ relistedAfter (listed ++ front.map Prod.snd) back := by
  induction front generalizing listed with
  | nil => rw [List.map_nil, List.append_nil, relistedAfter, List.nil_append, List.nil_append]
  | cons header rest ih =>
      rw [List.cons_append, relistedAfter, ih, relistedAfter, List.map_cons, List.append_assoc,
        List.append_assoc, List.singleton_append]

/-- With growing line numbers, the headers on earlier lines are those further above. -/
theorem relistedAfter_eq_filter
    {headers : List (Nat × CacheId)}
    (hsorted : headers.Pairwise fun header later => header.1 < later.1)
    (listed : List CacheId) :
    relistedAfter listed headers = headers.filter fun header =>
      header.2 ∈ listed ||
        headers.any fun earlier => earlier.1 < header.1 && earlier.2 = header.2 := by
  induction headers generalizing listed with
  | nil => rfl
  | cons first rest ih =>
      obtain ⟨hfirst, hrest⟩ := List.pairwise_cons.mp hsorted
      have hnone : ((first :: rest).any fun earlier =>
          earlier.1 < first.1 && earlier.2 = first.2) = false := by
        rw [List.any_eq_false]
        intro earlier hearlier
        rcases List.mem_cons.mp hearlier with rfl | hlater
        · simp
        · have hlt := hfirst earlier hlater
          simp [Nat.not_lt_of_gt hlt]
      have hbehind : ∀ header ∈ rest,
          (header.2 ∈ listed ++ [first.2] ||
            rest.any fun earlier => earlier.1 < header.1 && earlier.2 = header.2) =
          (header.2 ∈ listed ||
            (first :: rest).any fun earlier =>
              earlier.1 < header.1 && earlier.2 = header.2) := by
        intro header hheader
        have hlt := hfirst header hheader
        simp [hlt, eq_comm, Bool.or_assoc]
      rw [relistedAfter, ih hrest, List.filter_congr hbehind, List.filter_cons, hnone,
        Bool.or_false]
      by_cases hmem : first.2 ∈ listed
      · simp [hmem]
      · simp [hmem]

theorem relistedAfter_nil_eq
    {headers : List (Nat × CacheId)}
    (hsorted : headers.Pairwise fun header later => header.1 < later.1) :
    relistedAfter [] headers = relisted headers := by
  rw [relistedAfter_eq_filter hsorted, relisted]
  simp

theorem length_eraseDups_concat (listed : List CacheId) (id : CacheId) :
    (listed ++ [id]).eraseDups.length =
      listed.eraseDups.length + if id ∈ listed then 0 else 1 := by
  rw [eraseDups_concat]
  split
  · rfl
  · exact List.length_append

/-- A header is either the first of its cache or the header of a cache that is listed. -/
theorem length_add_length_eraseDups
    (listed : List CacheId) (headers : List (Nat × CacheId)) :
    headers.length + listed.eraseDups.length =
      (listed ++ headers.map Prod.snd).eraseDups.length +
        (relistedAfter listed headers).length := by
  induction headers generalizing listed with
  | nil => simp [relistedAfter]
  | cons header rest ih =>
      have hrest := ih (listed ++ [header.2])
      rw [length_eraseDups_concat, List.append_assoc, List.singleton_append] at hrest
      rw [relistedAfter, List.length_append, List.length_cons, List.map_cons]
      by_cases hlisted : header.2 ∈ listed
      · rw [if_pos hlisted] at hrest ⊢
        rw [List.length_singleton]
        omega
      · rw [if_neg hlisted] at hrest ⊢
        rw [List.length_nil]
        omega

theorem nodup_of_relistedAfter_eq_nil
    {listed : List CacheId} (hlisted : listed.Nodup) {headers : List (Nat × CacheId)}
    (hnone : relistedAfter listed headers = []) : (listed ++ headers.map Prod.snd).Nodup := by
  induction headers generalizing listed with
  | nil => simpa using hlisted
  | cons header rest ih =>
      rw [relistedAfter, List.append_eq_nil_iff] at hnone
      have hnew : header.2 ∉ listed := by
        intro hmem
        rw [if_pos hmem] at hnone
        cases hnone.1
      have hnext : (listed ++ [header.2]).Nodup :=
        List.nodup_append'.mpr ⟨hlisted, List.nodup_singleton _, by simpa using hnew⟩
      have hrest := ih hnext hnone.2
      rwa [List.append_assoc, List.singleton_append] at hrest

namespace State

/-! ## What a line adds -/

/-- Whether the reader is inside a section. -/
def isInside (state : State) : Bool :=
  state.place ≠ .outside

/-- The number of records in all listings, those of caches included that are listed again. -/
def recordTotal (state : State) : Nat :=
  (state.listings.flatMap Cache.records).length

variable {state next final : State} {kind : LineKind} {kinds : List LineKind}

theorem isInside_goTo (state : State) (place : Place) :
    (state.goTo place).isInside = decide (place ≠ .outside) := by
  rw [isInside, place_goTo]

theorem isInside_of_outside (houtside : state.place = .outside) : state.isInside = false :=
  decide_eq_false (not_not_intro houtside)

theorem isInside_of_inside (hinside : state.place ≠ .outside) : state.isInside = true :=
  decide_eq_true hinside

theorem Moves.isInside_eq (hmoves : state.Moves kind next) :
    next.isInside = kind.leavesOpen state.isInside := by
  cases hmoves with
  | pass houtside hkind =>
      rw [isInside_of_outside houtside]
      exact (decide_eq_false hkind).symm
  | enter houtside =>
      rw [isInside_of_outside houtside, isInside_goTo]
      rfl
  | stay hinside hkind =>
      rw [isInside_of_inside hinside]
      rcases hkind with rfl | rfl
      · rfl
      · rfl
  | leave hinside =>
      rw [isInside_of_inside hinside, isInside_goTo]
      rfl
  | list hinside id =>
      rw [isInside_of_inside hinside, isInside_goTo]
      rfl
  | add complete id records => rfl

/-- The listings grow by the headers inside sections. -/
theorem Moves.ids_listings_eq (hmoves : state.Moves kind next) (number : Nat) :
    next.listings.map Cache.id = state.listings.map Cache.id ++
      (headersAmong (if state.isInside then [(number, kind)] else [])).map Prod.snd := by
  cases hmoves with
  | pass houtside hkind =>
      rw [isInside_of_outside houtside]
      exact (List.append_nil _).symm
  | enter houtside =>
      rw [isInside_of_outside houtside, listings_goTo, List.map_append]
      rfl
  | stay hinside hkind =>
      rw [isInside_of_inside hinside]
      rcases hkind with rfl | rfl
      · exact (List.append_nil _).symm
      · exact (List.append_nil _).symm
  | leave hinside =>
      rw [isInside_of_inside hinside, listings_goTo, List.map_append]
      rfl
  | list hinside id =>
      rw [isInside_of_inside hinside, listings_goTo, List.map_append]
      rfl
  | add complete id records =>
      rw [isInside_of_inside (by simp)]
      simp [listings, openListing?, headersAmong, LineKind.header?]

/-- The records in the listings grow by the record lines inside sections. -/
theorem Moves.recordTotal_eq (hmoves : state.Moves kind next) (number : Nat) :
    next.recordTotal = state.recordTotal +
      (if state.isInside then [(number, kind)] else []).countP fun line => line.2.isRecord := by
  cases hmoves with
  | pass houtside hkind =>
      rw [isInside_of_outside houtside]
      rfl
  | enter houtside =>
      rw [isInside_of_outside houtside, recordTotal, listings_goTo, List.flatMap_append]
      simp [openListing?, recordTotal]
  | stay hinside hkind =>
      rw [isInside_of_inside hinside]
      rcases hkind with rfl | rfl
      · rfl
      · rfl
  | leave hinside =>
      rw [isInside_of_inside hinside, recordTotal, listings_goTo_outside]
      rfl
  | list hinside id =>
      rw [isInside_of_inside hinside, recordTotal, listings_goTo, List.flatMap_append]
      simp [openListing?, recordTotal, LineKind.isRecord]
  | add complete id records =>
      rw [isInside_of_inside (by simp)]
      simp [recordTotal, listings, openListing?, LineKind.isRecord]
      omega

/-! ## What a run adds -/

theorem Reads.isInside_eq (h : state.Reads kinds final) :
    final.isInside = kinds.foldl (fun inside kind => kind.leavesOpen inside) state.isInside := by
  induction h with
  | nil state => rfl
  | cons hmoves _ ih => rw [ih, List.foldl_cons, hmoves.isInside_eq]

theorem Reads.ids_listings_eq (h : state.Reads kinds final) (first : Nat) :
    final.listings.map Cache.id = state.listings.map Cache.id ++
      (headersAmong (linesInside state.isInside first kinds)).map Prod.snd := by
  induction h generalizing first with
  | nil state => exact (List.append_nil _).symm
  | cons hmoves _ ih =>
      rw [ih (first + 1), hmoves.ids_listings_eq first, hmoves.isInside_eq, linesInside,
        headersAmong_append, List.map_append, List.append_assoc]

theorem Reads.recordTotal_eq (h : state.Reads kinds final) (first : Nat) :
    final.recordTotal = state.recordTotal +
      (linesInside state.isInside first kinds).countP fun line => line.2.isRecord := by
  induction h generalizing first with
  | nil state => rfl
  | cons hmoves _ ih =>
      rw [ih (first + 1), hmoves.recordTotal_eq first, hmoves.isInside_eq, linesInside,
        List.countP_append, Nat.add_assoc]

end State

/-! ## Warnings in the log -/

/-- The line and the cache of the notice that a cache is listed again. -/
def Notice.relisting? : Notice → Option (Nat × CacheId)
  | listedAgain line cache => some (line, cache)
  | _ => none

namespace State

theorem relisting?_notice? (state : State) (number : Nat) (kind : LineKind) :
    (state.notice? number kind).toList.filterMap Notice.relisting? =
      relistedAfter (state.listings.map Cache.id)
        (headersAmong (if state.isInside then [(number, kind)] else [])) := by
  by_cases hplace : state.place = .outside
  · rw [isInside_of_outside hplace, notice?.eq_def, if_pos hplace]
    split
    · rfl
    · rfl
  · rw [isInside_of_inside hplace, notice?.eq_def, if_neg hplace]
    cases kind with
    | header id =>
        by_cases hlisted : id ∈ state.listings.map Cache.id
        · simp [headersAmong, LineKind.header?, relistedAfter, hlisted, Notice.relisting?]
        · simp [headersAmong, LineKind.header?, relistedAfter, hlisted, Notice.relisting?]
    | sectionOpen | sectionClose | malformedHeader | record | blank | other => rfl

theorem relisting?_finalNotices (state : State) :
    state.finalNotices.filterMap Notice.relisting? = [] := by
  unfold finalNotices
  split
  · rfl
  · rfl

/-- A run over accepted lines reports the headers of caches that are listed already. -/
theorem relisting?_notices
    {state final : State} {first : Nat} {lines : List Text}
    (hrun : state.run first lines = .ok final) :
    (state.notices first lines).filterMap Notice.relisting? =
      relistedAfter (state.listings.map Cache.id)
        (headersAmong (linesInside state.isInside first (lines.map LineKind.of))) := by
  induction lines generalizing state first with
  | nil => exact state.relisting?_finalNotices
  | cons line rest ih =>
      rw [run] at hrun
      cases hstep : state.step (LineKind.of line) with
      | error cause =>
          rw [hstep] at hrun
          cases hrun
      | ok next =>
          rw [hstep] at hrun
          have hmoves : state.Moves (LineKind.of line) next := step_eq_ok_iff.mp hstep
          rw [notices, hstep, List.filterMap_append, relisting?_notice?, ih hrun,
            hmoves.isInside_eq, hmoves.ids_listings_eq first, List.map_cons, linesInside,
            headersAmong_append, relistedAfter_append]

end State

theorem warnings_relisting (lines : List Text) :
    warnings "cache listed again, earlier records dropped" lines =
      ((lineNotices lines).filterMap Notice.relisting?).map fun header =>
        (Notice.listedAgain header.1 header.2).entry := by
  unfold warnings
  induction lineNotices lines with
  | nil => rfl
  | cons notice rest ih =>
      rw [List.map_cons, List.filter_cons, ih]
      cases notice with
      | listedAgain line cache => simp [Notice.entry, Notice.relisting?]
      | opened | nestedOpening | closed | unclosed | finished =>
          simp [Notice.entry, Notice.relisting?, List.filterMap_cons]

theorem warnings_unclosed_ne_nil_iff (lines : List Text) :
    warnings "cache-content section not closed before end of input" lines ≠ [] ↔
      .unclosed ∈ lineNotices lines := by
  unfold warnings
  induction lineNotices lines with
  | nil => simp
  | cons notice rest ih =>
      rw [List.map_cons, List.filter_cons, List.mem_cons]
      cases notice with
      | unclosed => simp [Notice.entry]
      | opened | nestedOpening | closed | listedAgain | finished =>
          simpa [Notice.entry] using ih

/-! ## Losses -/

/-- A header of an accepted dump either adds a cache to the snapshot or gives a warning, with
its line and cache, that the cache was listed on an earlier line.  Without such a warning
every record line has its record in the snapshot.  That a section is not closed is warned
of exactly when one is open at the end. -/
theorem readLines_warns_of_losses
    {lines : List Text} {snapshot : Snapshot} (hread : readLines lines = .ok snapshot) :
    let inside := linesInside false 1 (lines.map LineKind.of)
    let headers := headersAmong inside
    let dropped := warnings "cache listed again, earlier records dropped" lines
    headers.length = snapshot.size + dropped.length ∧
    dropped.map Log.Entry.fields = (relisted headers).map (fun header =>
      [("line", header.1.repr), ("cache", header.2.text)]) ∧
    (dropped = [] → snapshot.recordCount = inside.countP fun line => line.2.isRecord) ∧
    (warnings "cache-content section not closed before end of input" lines ≠ [] ↔
      endsInside (lines.map LineKind.of) = true) := by
  obtain ⟨final, hrun, rfl⟩ := exists_run_of_readLines hread
  intro inside headers dropped
  have hreads : State.initial.Reads (lines.map LineKind.of) final := State.run_eq_ok_iff.mp hrun
  have hids : final.listings.map Cache.id = headers.map Prod.snd := hreads.ids_listings_eq 1
  have hnotices : (lineNotices lines).filterMap Notice.relisting? = relistedAfter [] headers :=
    State.relisting?_notices hrun
  have hdropped : dropped = (relistedAfter [] headers).map fun header =>
      (Notice.listedAgain header.1 header.2).entry := by
    rw [← hnotices]
    exact warnings_relisting lines
  refine ⟨?_, ?_, ?_, ?_⟩
  · have hsize : final.snapshot.size = (headers.map Prod.snd).eraseDups.length := by
      rw [← hids, ← Snapshot.ids_ofCaches, Snapshot.ids, List.length_map]
      rfl
    have hlength := length_add_length_eraseDups [] headers
    rw [hsize, hdropped, List.length_map]
    exact hlength
  · have hsorted := pairwise_headersAmong (pairwise_linesInside false 1 (lines.map LineKind.of))
    rw [hdropped, relistedAfter_nil_eq hsorted, List.map_map]
    rfl
  · intro hnone
    rw [hdropped, List.map_eq_nil_iff] at hnone
    have hnodup : (final.listings.map Cache.id).Nodup := by
      rw [hids]
      exact nodup_of_relistedAfter_eq_nil List.nodup_nil hnone
    have hcaches : final.snapshot.caches = final.listings :=
      Snapshot.caches_foldl_put hnodup
    have htotal := hreads.recordTotal_eq 1
    rw [Snapshot.recordCount, hcaches]
    exact htotal.trans (Nat.zero_add _)
  · have hinside : final.isInside = endsInside (lines.map LineKind.of) := hreads.isInside_eq
    rw [warnings_unclosed_ne_nil_iff, lineNotices, State.unclosed_mem_notices_iff hrun, ← hinside,
      State.isInside, decide_eq_true_eq]

/-- The cache of the first section is listed again in the second one, which has no end. -/
theorem readLines_warns_of_losses_unclosed :
    let lines :=
      ["CACHE CONTENT", "Cache 1:", "CacheLine\x7bset_index:2,tag:5,last_used:1,status:M\x7d",
        "CACHE END", "Cache 0:", "CACHE CONTENT", "Cache 0:", "Cache 1:"].map String.toList
    ∃ snapshot, readLines lines = .ok snapshot ∧ snapshot.size = 2 ∧
      (warnings "cache listed again, earlier records dropped" lines).map Log.Entry.fields =
        [[("line", "8"), ("cache", "1")]] ∧
      warnings "cache-content section not closed before end of input" lines ≠ [] := by
  intro lines
  have hread : readLines lines = .ok (.ofCaches [⟨⟨1⟩, []⟩, ⟨⟨0⟩, []⟩]) := rfl
  obtain ⟨-, hdropped, -, hunclosed⟩ := readLines_warns_of_losses hread
  refine ⟨_, hread, rfl, ?_, hunclosed.mpr rfl⟩
  rw [hdropped]
  rfl

end CacheCoherence.Dump
