import CacheCoherence.Proofs.Coherence.Balance
import CacheCoherence.Proofs.CommandLine.ExitStatus
import CacheCoherence.Proofs.Parts
import CacheCoherence.Proofs.Report.Shown
import Mathlib.Data.List.Forall2

/-!
# What the text report tells of the tests

The report groups its violations by cache and invariant, with two filters, while a check
finds them in an order of its own.  For a report of a check both orders are one, since the
caches of a snapshot are different and each has one outcome for an invariant, in the order
of the snapshot and of the table.  The reader of such a report finds every outcome and
every violation once, in its order and where it belongs.
-/

namespace CacheCoherence

/-! ## Reports of checks -/

namespace Report.Balanced

variable {report : Report} {snapshot : Snapshot} {rules : List Rule}

/-- A balanced report has its outcomes cache by cache. -/
theorem flatMap_outcomesOf (hbalanced : report.Balanced snapshot rules) :
    snapshot.ids.flatMap report.outcomesOf = report.outcomes := by
  have hcaches : report.outcomes.map Outcome.cache =
      snapshot.ids.flatMap (List.replicate rules.length) := by
    have hfst := congrArg (List.map Prod.fst) hbalanced.subjects_eq
    rw [List.map_map] at hfst
    simpa [SProd.sprod, List.product, List.map_flatMap, Function.comp_def, Outcome.subject]
      using hfst
  exact flatMap_filter_key snapshot.nodup_ids hcaches

/-- Below an outcome of a balanced report are all violations of its cache and invariant. -/
theorem below_eq
    (hbalanced : report.Balanced snapshot rules) {outcome : Outcome}
    (houtcome : outcome ∈ report.outcomes) :
    report.below outcome = report.violationsUnder outcome.cache outcome.invariant := by
  cases hverdict : outcome.verdict with
  | pass =>
      rw [hbalanced.none_under outcome houtcome (Or.inl hverdict), below, hverdict]
  | fail n => rw [below, hverdict]
  | skipped =>
      rw [hbalanced.none_under outcome houtcome (Or.inr hverdict), below, hverdict]

theorem flatMap_below (hbalanced : report.Balanced snapshot rules) :
    report.outcomes.flatMap report.below = report.violations := by
  rw [← hbalanced.flatMap_violationsUnder]
  exact List.flatMap_congr fun outcome houtcome => hbalanced.below_eq houtcome

theorem length_violationsUnder
    (hbalanced : report.Balanced snapshot rules) {outcome : Outcome}
    (houtcome : outcome ∈ report.outcomes) :
    (report.violationsUnder outcome.cache outcome.invariant).length =
      outcome.verdict.violations := by
  cases hverdict : outcome.verdict with
  | pass =>
      rw [hbalanced.none_under outcome houtcome (Or.inl hverdict)]
      rfl
  | fail n => exact ((hbalanced.fail_iff outcome houtcome n).mp hverdict).1.symm
  | skipped =>
      rw [hbalanced.none_under outcome houtcome (Or.inr hverdict)]
      rfl

theorem isClean_iff_forall_pass (hbalanced : report.Balanced snapshot rules) :
    report.isClean = true ↔ ∀ outcome ∈ report.outcomes, outcome.verdict = .pass := by
  constructor
  · intro hclean outcome houtcome
    have hnone : report.below outcome = [] := by
      have hall := hbalanced.flatMap_below
      rw [isClean_iff.mp hclean] at hall
      exact List.flatMap_eq_nil_iff.mp hall outcome houtcome
    cases hverdict : outcome.verdict with
    | pass => rfl
    | fail n =>
        obtain ⟨hlength, hpos⟩ := (hbalanced.fail_iff outcome houtcome n).mp hverdict
        rw [← hbalanced.below_eq houtcome, hnone] at hlength
        exact absurd hlength hpos.ne'
    | skipped =>
        have hbroken := (hbalanced.skipped_only outcome houtcome hverdict).2
        exact absurd hclean (Bool.eq_false_iff.mp hbroken)
  · intro hpass
    rw [isClean_iff, ← hbalanced.flatMap_below]
    refine List.flatMap_eq_nil_iff.mpr fun outcome houtcome => ?_
    rw [below, hpass outcome houtcome]

end Report.Balanced

/-! ## Reports of verified dumps -/

theorem exists_of_verify
    {source text : String} {protocol : Protocol} {mode : Mode} {verification : Verification}
    (hverify : verify source text protocol mode = .ok verification) :
    ∃ snapshot, verification = .ofSnapshot source protocol mode snapshot := by
  cases hread : Dump.read text with
  | error error =>
      rw [verify_of_rejected hread] at hverify
      cases hverify
  | ok snapshot =>
      rw [verify_of_read hread] at hverify
      exact ⟨snapshot, (Except.ok.inj hverify).symm⟩

theorem balanced_of_verify
    {source text : String} {protocol : Protocol} {mode : Mode} {verification : Verification}
    (hverify : verify source text protocol mode = .ok verification) :
    verification.report.Balanced verification.snapshot protocol.rules := by
  obtain ⟨snapshot, rfl⟩ := exists_of_verify hverify
  cases protocol
  exact snapshot.balanced_check mode Protocol.nodup_invariants_mesi

namespace Verification

/-- An outcome as it is shown, against the outcome of the report: below it are exactly the
violations of its invariant with its cache as the subject, as many as it counts. -/
structure ShowsOutcome (verification : Verification) (shown : ShownOutcome)
    (outcome : Outcome) : Prop where
  cache_eq : shown.cache = outcome.cache.text.toList
  label_eq : shown.label = outcome.verdict.label.toList
  test_eq : shown.test = outcome.invariant.testName.toList
  below_eq : shown.below =
    (verification.report.violationsUnder outcome.cache outcome.invariant).map fun violation =>
      violation.text.toList
  length_below : shown.below.length = outcome.verdict.violations

/-- Some lines tell what was verified: all violations in their order, all outcomes with
the violations that they count, and in the last line how many caches or violations there
are. -/
structure ToldBy (verification : Verification) (lines : List Text) : Prop where
  violations_eq : lines.filterMap violationText? =
    verification.report.violations.map fun violation => violation.text.toList
  outcomes : List.Forall₂ verification.ShowsOutcome (shownOutcomes [] lines)
    verification.report.outcomes
  below_eq_nil : ∀ shown ∈ shownOutcomes [] lines, shown.label ≠ "FAIL".toList →
    shown.below = []
  passed_iff : lines.getLast? =
      some ("PASS: " ++ verification.snapshot.size.repr ++ " cache(s) verified").toList ↔
    ∀ shown ∈ shownOutcomes [] lines, shown.label = "PASS".toList
  failed : (∃ shown ∈ shownOutcomes [] lines, shown.label ≠ "PASS".toList) →
    lines.getLast? = some ("FAIL: " ++ (lines.filterMap violationText?).length.repr ++
      " violation(s)" ++
        if verification.report.mode = .failFast then " (stopped at first)" else "").toList

theorem resultLine_of_not_passed {verification : Verification}
    (hbroken : verification.passed ≠ true) :
    verification.resultLine = "FAIL: " ++ verification.report.violations.length.repr ++
      " violation(s)" ++
        if verification.report.mode = .failFast then " (stopped at first)" else "" := by
  rw [resultLine]
  exact if_neg hbroken

theorem resultLine_eq_iff_passed {verification : Verification} :
    verification.resultLine =
        "PASS: " ++ verification.snapshot.size.repr ++ " cache(s) verified" ↔
      verification.passed = true := by
  constructor
  · intro hresult
    by_contra hbroken
    rw [resultLine_of_not_passed hbroken] at hresult
    have hlists := congrArg String.toList hresult
    simp [String.toList_append] at hlists
  · intro hpassed
    rw [resultLine]
    exact if_pos hpassed

section Balanced

variable {verification : Verification} {rules : List Rule}

theorem shownOutcomes_plain_of_balanced
    (hbalanced : verification.report.Balanced verification.snapshot rules) :
    shownOutcomes [] (Text.lines verification.plain.toList) =
      verification.report.outcomes.map fun outcome =>
        outcome.shown (verification.report.violationsUnder outcome.cache outcome.invariant) := by
  rw [shownOutcomes_plain, hbalanced.flatMap_outcomesOf]
  refine List.map_congr_left fun outcome houtcome => ?_
  rw [hbalanced.below_eq houtcome]

theorem filterMap_violationText?_plain_of_balanced
    (hbalanced : verification.report.Balanced verification.snapshot rules) :
    (Text.lines verification.plain.toList).filterMap violationText? =
      verification.report.violations.map fun violation => violation.text.toList := by
  rw [filterMap_violationText?_plain, hbalanced.flatMap_outcomesOf, hbalanced.flatMap_below]

theorem forall_shown_pass_iff
    (hbalanced : verification.report.Balanced verification.snapshot rules) :
    (∀ shown ∈ shownOutcomes [] (Text.lines verification.plain.toList),
        shown.label = "PASS".toList) ↔ verification.passed = true := by
  rw [shownOutcomes_plain_of_balanced hbalanced, passed, hbalanced.isClean_iff_forall_pass]
  simp only [List.forall_mem_map, Outcome.shown, String.toList_inj, Verdict.label_eq_pass_iff]

end Balanced

/-- The text report of a verified dump tells all violations and outcomes, in their order,
and the result. -/
theorem plain_tells_tests
    {source text : String} {protocol : Protocol} {mode : Mode} {verification : Verification}
    (hverify : verify source text protocol mode = .ok verification) :
    verification.ToldBy (Text.lines verification.plain.toList) := by
  have hbalanced := balanced_of_verify hverify
  have hshown := shownOutcomes_plain_of_balanced hbalanced
  have hviolations := filterMap_violationText?_plain_of_balanced hbalanced
  constructor
  case violations_eq => exact hviolations
  case outcomes =>
    rw [hshown, List.forall₂_map_left_iff, List.forall₂_same]
    intro outcome houtcome
    exact ⟨rfl, rfl, rfl, rfl,
      (List.length_map _).trans (hbalanced.length_violationsUnder houtcome)⟩
  case below_eq_nil =>
    intro shown hmem hlabel
    rw [hshown] at hmem
    obtain ⟨outcome, houtcome, rfl⟩ := List.mem_map.mp hmem
    have hnone := Verdict.violations_of_label_ne_fail fun h => hlabel (congrArg String.toList h)
    rw [← hbalanced.length_violationsUnder houtcome] at hnone
    exact List.map_eq_nil_iff.mpr (List.length_eq_zero_iff.mp hnone)
  case passed_iff =>
    rw [getLast?_lines_plain, Option.some.injEq, String.toList_inj, resultLine_eq_iff_passed,
      forall_shown_pass_iff hbalanced]
  case failed =>
    intro hbroken
    have hnot : verification.passed ≠ true := by
      intro hpassed
      obtain ⟨shown, hmem, hlabel⟩ := hbroken
      exact hlabel ((forall_shown_pass_iff hbalanced).mpr hpassed shown hmem)
    rw [getLast?_lines_plain, resultLine_of_not_passed hnot, hviolations, List.length_map]

/-- A run that fails fast tells one of the two violations of a line that two caches hold
as modified. -/
theorem plain_tells_tests_of_two_owners :
    let text := Text.unlines
      ["CACHE CONTENT", "Cache 0:", "CacheLine\x7bset_index:2,tag:5,last_used:1,status:M\x7d",
        "Cache 1:", "CacheLine\x7bset_index:2,tag:5,last_used:4,status:M\x7d"]
    ∃ verification, verify "dump.out" text .mesi .failFast = .ok verification ∧
      verification.ToldBy (Text.lines verification.plain.toList) ∧
      (Text.lines verification.plain.toList).filterMap violationText? =
        ["M in cache 0 but M in cache 1 (tag 5, set 2)".toList] := by
  intro text
  let snapshot := Snapshot.ofCaches
    [⟨⟨0⟩, [⟨2, 5, 1, .modified⟩]⟩, ⟨⟨1⟩, [⟨2, 5, 4, .modified⟩]⟩]
  have hread : Dump.read text = .ok snapshot := by
    rw [Dump.read, Text.lines_unlines (by decide)]
    rfl
  have hverify : verify "dump.out" text .mesi .failFast =
      .ok (.ofSnapshot "dump.out" .mesi .failFast snapshot) := verify_of_read hread
  have htold := plain_tells_tests hverify
  exact ⟨_, hverify, htold, htold.violations_eq.trans (by decide)⟩

end Verification

end CacheCoherence
