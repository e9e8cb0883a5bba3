import CacheCoherence.Proofs.Report.Data
import CacheCoherence.Proofs.Report.Tests
import CacheCoherence.Proofs.Report.Wording

/-!
# The two reports tell the same

The text report prints neither how many violations an outcome counts nor the invariant of
a violation.  Both can be told from where a line stands, when the report is one of a
check: below an outcome are as many violations as it counts, and all are of its invariant.
So the text is as good as the data, for dumps that were verified.
-/

namespace CacheCoherence

theorem Verdict.eq_of_label_eq
    {verdict other : Verdict} (hlabel : verdict.label = other.label)
    (hviolations : verdict.violations = other.violations) : verdict = other := by
  cases verdict <;> cases other <;> simp_all [label, violations]

/-- Violations of one invariant are told by their texts. -/
theorem Violation.eq_of_texts_eq
    {violations others : List Violation} {invariant : Invariant}
    (hviolations : ∀ violation ∈ violations, violation.invariant = invariant)
    (hothers : ∀ violation ∈ others, violation.invariant = invariant)
    (h : (violations.map fun violation => violation.text.toList) =
      others.map fun violation => violation.text.toList) : violations = others := by
  have hids : violations.map id = others.map id := by
    refine map_eq_map_of_forall (fun violation hmem other hother htext => ?_) h
    exact eq_of_text_eq ((hviolations violation hmem).trans (hothers other hother).symm)
      (String.toList_inj.mp htext)
  rwa [List.map_id, List.map_id] at hids

namespace Report

/-- An outcome with the violations that it counts. -/
def withViolations (report : Report) (outcome : Outcome) : Outcome × List Violation :=
  (outcome, report.violationsUnder outcome.cache outcome.invariant)

theorem invariant_of_mem_violationsUnder
    {report : Report} {id : CacheId} {invariant : Invariant} {violation : Violation}
    (hviolation : violation ∈ report.violationsUnder id invariant) :
    violation.invariant = invariant :=
  of_decide_eq_true (List.mem_filter.mp hviolation).2

namespace Balanced

variable {report report' : Report} {snapshot snapshot' : Snapshot} {rules rules' : List Rule}

/-- An outcome and the violations that it counts are told by how they are shown. -/
theorem withViolations_eq_of_shown_eq
    (hbalanced : report.Balanced snapshot rules) (hbalanced' : report'.Balanced snapshot' rules')
    {outcome outcome' : Outcome} (houtcome : outcome ∈ report.outcomes)
    (houtcome' : outcome' ∈ report'.outcomes)
    (h : outcome.shown (report.violationsUnder outcome.cache outcome.invariant) =
      outcome'.shown (report'.violationsUnder outcome'.cache outcome'.invariant)) :
    report.withViolations outcome = report'.withViolations outcome' := by
  obtain ⟨hcache, hlabel, htest, hbelow⟩ := ShownOutcome.mk.inj h
  have hid := CacheId.text_injective (String.toList_inj.mp hcache)
  have hinvariant := Invariant.testName_injective (String.toList_inj.mp htest)
  have hunder := Violation.eq_of_texts_eq
    (fun violation => invariant_of_mem_violationsUnder)
    (fun violation hmem => (invariant_of_mem_violationsUnder hmem).trans hinvariant.symm) hbelow
  -- The count of a failure is not printed: it is the number of the lines below.
  have hcount : outcome.verdict.violations = outcome'.verdict.violations := by
    rw [← hbalanced.length_violationsUnder houtcome,
      ← hbalanced'.length_violationsUnder houtcome', hunder]
  have hverdict := Verdict.eq_of_label_eq (String.toList_inj.mp hlabel) hcount
  exact Prod.ext ((Outcome.mk.injEq ..).mpr ⟨hid, hinvariant, hverdict⟩) hunder

/-- The outcomes with their violations hold everything that was found. -/
theorem eq_of_withViolations_eq
    (hbalanced : report.Balanced snapshot rules) (hbalanced' : report'.Balanced snapshot' rules')
    (h : report.outcomes.map report.withViolations =
      report'.outcomes.map report'.withViolations) :
    report.outcomes = report'.outcomes ∧ report.violations = report'.violations := by
  constructor
  · have hfst := congrArg (List.map Prod.fst) h
    simpa [withViolations, Function.comp_def] using hfst
  · rw [← hbalanced.flatMap_violationsUnder, ← hbalanced'.flatMap_violationsUnder]
    have hsnd := congrArg (List.flatMap Prod.snd) h
    rwa [List.flatMap_map, List.flatMap_map] at hsnd

end Balanced

end Report

namespace Verification

variable {verification other : Verification} {rules rules' : List Rule}

theorem statistics_eq_of_plain_eq (hplain : verification.plain = other.plain) :
    verification.statistics = other.statistics := by
  have hlines := plain_eq_iff.mp hplain
  simp only [plainLines, List.append_assoc, List.cons_append, List.nil_append, List.cons.injEq,
    true_and] at hlines
  exact (Statistics.mk.injEq ..).mpr (CacheStatistics.flatMap_lines_append_inj hlines).1

theorem report_eq_of_plain_eq
    (hbalanced : verification.report.Balanced verification.snapshot rules)
    (hbalanced' : other.report.Balanced other.snapshot rules')
    (hplain : verification.plain = other.plain) :
    verification.report.outcomes = other.report.outcomes ∧
      verification.report.violations = other.report.violations := by
  have hshown := shownOutcomes_plain_of_balanced hbalanced
  rw [hplain, shownOutcomes_plain_of_balanced hbalanced'] at hshown
  refine hbalanced.eq_of_withViolations_eq hbalanced' (map_eq_map_of_forall ?_ hshown.symm)
  intro outcome houtcome outcome' houtcome' h
  exact hbalanced.withViolations_eq_of_shown_eq hbalanced' houtcome houtcome' h

theorem ids_of_verify
    {source text : String} {protocol : Protocol} {mode : Mode}
    (hverify : verify source text protocol mode = .ok verification) :
    verification.snapshot.ids = verification.statistics.caches.map CacheStatistics.id := by
  obtain ⟨snapshot, rfl⟩ := exists_of_verify hverify
  change snapshot.caches.map Cache.id =
    (snapshot.caches.map Cache.statistics).map CacheStatistics.id
  rw [List.map_map]
  rfl

/-- The text report depends on nothing but the identifiers of the caches and what the data
report tells. -/
theorem plain_eq_of_data_eq
    (hids : verification.snapshot.ids = other.snapshot.ids)
    (hstatistics : verification.statistics = other.statistics)
    (hreport : verification.report = other.report) : verification.plain = other.plain := by
  have hsize : verification.snapshot.size = other.snapshot.size := by
    have hlength := congrArg List.length hids
    rwa [Snapshot.ids, Snapshot.ids, List.length_map, List.length_map] at hlength
  rw [plain_eq_iff, plainLines, plainLines, resultLine, resultLine, passed, passed, hids, hsize,
    hstatistics, hreport]

/-- The text reports of two verified dumps are the same only when their statistics, their
outcomes and their violations are; if the sources and the modes are the same, they are so
exactly when the data reports are. -/
theorem plain_tells_data
    {source source' text text' : String} {protocol protocol' : Protocol} {mode mode' : Mode}
    (hverify : verify source text protocol mode = .ok verification)
    (hverify' : verify source' text' protocol' mode' = .ok other) :
    (verification.plain = other.plain →
      verification.statistics = other.statistics ∧
        verification.report.outcomes = other.report.outcomes ∧
        verification.report.violations = other.report.violations) ∧
    (verification.source = other.source → verification.report.mode = other.report.mode →
      (verification.plain = other.plain ↔ verification.jsonText = other.jsonText)) := by
  have hdata : verification.plain = other.plain →
      verification.statistics = other.statistics ∧
        verification.report.outcomes = other.report.outcomes ∧
        verification.report.violations = other.report.violations := by
    intro hplain
    exact ⟨statistics_eq_of_plain_eq hplain, report_eq_of_plain_eq (balanced_of_verify hverify)
      (balanced_of_verify hverify') hplain⟩
  refine ⟨hdata, fun hsource hmode => ⟨fun hplain => ?_, fun hjsonText => ?_⟩⟩
  · obtain ⟨hstatistics, houtcomes, hviolations⟩ := hdata hplain
    have hpassed : verification.passed = other.passed := by
      rw [passed, passed, Report.isClean, Report.isClean, hviolations]
    have hjson := json_eq_iff.mpr
      ⟨hsource, hpassed, hmode, hstatistics, houtcomes, hviolations⟩
    rw [jsonText, jsonText, hjson]
  · obtain ⟨-, -, -, hstatistics, houtcomes, hviolations⟩ :=
      json_eq_iff.mp (Json.pretty_injective hjsonText)
    have hids : verification.snapshot.ids = other.snapshot.ids := by
      rw [ids_of_verify hverify, ids_of_verify hverify', hstatistics]
    have hreport := (Report.mk.injEq ..).mpr ⟨hmode, hviolations, houtcomes⟩
    exact plain_eq_of_data_eq hids hstatistics hreport

/-- Two dumps with the same outcomes, of caches that differ in the recency of their line
only: both reports tell them apart. -/
theorem plain_tells_data_of_recency :
    let text (recency : String) := Text.unlines
      ["CACHE CONTENT", "Cache 0:",
        "CacheLine\x7bset_index:2,tag:5,last_used:" ++ recency ++ ",status:M\x7d"]
    ∃ early late, verify "dump.out" (text "1") .mesi .exhaustive = .ok early ∧
      verify "dump.out" (text "4") .mesi .exhaustive = .ok late ∧
      early.report = late.report ∧ early.plain ≠ late.plain ∧ early.jsonText ≠ late.jsonText := by
  intro text
  let snapshot (recency : UInt64) := Snapshot.ofCaches [⟨⟨0⟩, [⟨2, 5, recency, .modified⟩]⟩]
  have hread : Dump.read (text "1") = .ok (snapshot 1) := by
    rw [Dump.read, Text.lines_unlines (by decide)]
    rfl
  have hread' : Dump.read (text "4") = .ok (snapshot 4) := by
    rw [Dump.read, Text.lines_unlines (by decide)]
    rfl
  have hverify : verify "dump.out" (text "1") .mesi .exhaustive =
      .ok (.ofSnapshot "dump.out" .mesi .exhaustive (snapshot 1)) := verify_of_read hread
  have hverify' : verify "dump.out" (text "4") .mesi .exhaustive =
      .ok (.ofSnapshot "dump.out" .mesi .exhaustive (snapshot 4)) := verify_of_read hread'
  obtain ⟨hdata, hiff⟩ := plain_tells_data hverify hverify'
  have hstatistics : (snapshot 1).statistics ≠ (snapshot 4).statistics := by decide
  have hplain := fun hsame => hstatistics (hdata hsame).1
  exact ⟨_, _, hverify, hverify', rfl, hplain, fun hsame => hplain ((hiff rfl rfl).mpr hsame)⟩

end Verification

end CacheCoherence
