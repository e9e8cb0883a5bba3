import CacheCoherence.Proofs.Coherence.FailFast
import CacheCoherence.Proofs.Coherence.Violations
import CacheCoherence.Proofs.Parts

/-!
# The balance of a report

A report has all its violations in one list, and their numbers in the outcomes.
The two agree because an evaluation keeps violations of its own cache and invariant
only, and no two evaluations of a check have both in common: filtering the list by
a cache and an invariant gives back what a single evaluation kept.

This needs nothing of a table but that it has one rule for an invariant, and holds
in both modes, whatever a run that fails fast leaves out.
-/

namespace CacheCoherence

/-! ## One evaluation -/

namespace Evaluation

theorem verdict_eq_fail_iff {evaluation : Evaluation} {n : Nat} :
    evaluation.verdict = .fail n ↔ n = evaluation.violations.length ∧ 0 < n := by
  obtain ⟨task, kept?⟩ := evaluation
  cases kept? with
  | none => simp [verdict, violations]
  | some kept =>
      cases kept with
      | nil => simp [verdict, violations]
      | cons first others =>
          simp only [verdict, violations, Option.getD_some, List.length_cons, Verdict.fail.injEq]
          omega

theorem verdict_eq_skipped_iff {evaluation : Evaluation} :
    evaluation.verdict = .skipped ↔ evaluation.kept? = none := by
  obtain ⟨task, kept?⟩ := evaluation
  cases kept? with
  | none => simp [verdict]
  | some kept => cases kept <;> simp [verdict]

theorem violations_eq_nil_of_verdict
    {evaluation : Evaluation} (hverdict : ∀ n, evaluation.verdict ≠ .fail n) :
    evaluation.violations = [] := by
  by_contra hne
  exact hverdict _ (verdict_eq_fail_iff.mpr ⟨rfl, List.length_pos_iff.mpr hne⟩)

theorem violations_verdict (evaluation : Evaluation) :
    evaluation.verdict.violations = evaluation.violations.length := by
  obtain ⟨task, kept?⟩ := evaluation
  cases kept? with
  | none => rfl
  | some kept => cases kept <;> rfl

/-- The cache and the invariant that an evaluation is about. -/
def subject (evaluation : Evaluation) : CacheId × Invariant :=
  (evaluation.task.cache.id, evaluation.task.rule.invariant)

end Evaluation

theorem countViolations_map_outcome (evaluations : List Evaluation) :
    Report.countViolations (evaluations.map Evaluation.outcome) =
      (evaluations.flatMap Evaluation.violations).length := by
  induction evaluations with
  | nil => rfl
  | cons evaluation rest ih =>
      have hcons : Report.countViolations ((evaluation :: rest).map Evaluation.outcome) =
          evaluation.verdict.violations +
            Report.countViolations (rest.map Evaluation.outcome) := rfl
      rw [hcons, ih, evaluation.violations_verdict, List.flatMap_cons, List.length_append]

/-! ## The evaluations of a check -/

theorem mem_find_of_mem_evaluateUntilFound
    {find : Task → List Violation} {tasks : List Task} {evaluation : Evaluation}
    {violation : Violation} (hevaluation : evaluation ∈ evaluateUntilFound find tasks)
    (hviolation : violation ∈ evaluation.violations) : violation ∈ find evaluation.task := by
  induction tasks with
  | nil => cases hevaluation
  | cons task rest ih =>
      rw [evaluateUntilFound] at hevaluation
      cases hfind : find task with
      | nil =>
          rw [hfind] at hevaluation
          rcases List.mem_cons.mp hevaluation with rfl | hrest
          · cases hviolation
          · exact ih hrest
      | cons first others =>
          rw [hfind] at hevaluation
          rcases List.mem_cons.mp hevaluation with rfl | hrest
          · rw [List.mem_singleton.mp hviolation, hfind]
            exact List.mem_cons_self
          · obtain ⟨later, -, rfl⟩ := List.mem_map.mp hrest
            cases hviolation

/-- A run keeps of a task only what the task finds. -/
theorem Mode.mem_find_of_mem_evaluate
    {mode : Mode} {find : Task → List Violation} {tasks : List Task} {evaluation : Evaluation}
    {violation : Violation} (hevaluation : evaluation ∈ mode.evaluate find tasks)
    (hviolation : violation ∈ evaluation.violations) : violation ∈ find evaluation.task := by
  cases mode with
  | exhaustive =>
      obtain ⟨task, -, rfl⟩ := List.mem_map.mp hevaluation
      exact hviolation
  | failFast => exact mem_find_of_mem_evaluateUntilFound hevaluation hviolation

namespace Snapshot

variable {snapshot : Snapshot} {rules : List Rule} {mode : Mode}

theorem subject_of_mem_violations
    {evaluation : Evaluation} (hevaluation : evaluation ∈ snapshot.evaluations rules mode)
    {violation : Violation} (hviolation : violation ∈ evaluation.violations) :
    (violation.cache, violation.invariant) = evaluation.subject := by
  have hfound : violation ∈ evaluation.task.findings snapshot :=
    Mode.mem_find_of_mem_evaluate hevaluation hviolation
  rw [Evaluation.subject, Rule.cache_of_mem_findings hfound,
    Rule.invariant_of_mem_findings hfound]

theorem subjects_evaluations (snapshot : Snapshot) (rules : List Rule) (mode : Mode) :
    (snapshot.evaluations rules mode).map Evaluation.subject =
      snapshot.ids ×ˢ rules.map Rule.invariant := by
  have htasks : (snapshot.evaluations rules mode).map Evaluation.subject =
      ((snapshot.evaluations rules mode).map Evaluation.task).map fun task =>
        (task.cache.id, task.rule.invariant) := by
    rw [List.map_map]
    rfl
  rw [htasks, evaluations, Mode.tasks_evaluate]
  simp [tasks, ids, SProd.sprod, List.product, List.map_flatMap, List.flatMap_map,
    Function.comp_def]

theorem nodup_subjects_evaluations
    (snapshot : Snapshot) (mode : Mode) (hrules : (rules.map Rule.invariant).Nodup) :
    ((snapshot.evaluations rules mode).map Evaluation.subject).Nodup := by
  rw [subjects_evaluations]
  exact snapshot.nodup_ids.product hrules

theorem violationsOf_check (snapshot : Snapshot) (rules : List Rule) (mode : Mode)
    (id : CacheId) :
    (snapshot.check rules mode).violationsOf id =
      ((snapshot.evaluations rules mode).filter fun evaluation =>
        evaluation.task.cache.id = id).flatMap Evaluation.violations := by
  refine filter_flatMap_of_source fun evaluation hevaluation violation hviolation => ?_
  have hsubject := subject_of_mem_violations hevaluation hviolation
  have hcache : violation.cache = evaluation.task.cache.id := congrArg Prod.fst hsubject
  rw [hcache]

/-- Among the violations of a check, those under the subject of an outcome are the
ones that the evaluation behind it kept. -/
theorem violationsUnder_check
    (hrules : (rules.map Rule.invariant).Nodup) {evaluation : Evaluation}
    (hevaluation : evaluation ∈ snapshot.evaluations rules mode) :
    (snapshot.check rules mode).violationsUnder evaluation.outcome.cache
      evaluation.outcome.invariant = evaluation.violations := by
  -- The two filters are one on pairs, and a pair is the subject of one evaluation.
  have hunder : (snapshot.check rules mode).violationsUnder evaluation.outcome.cache
      evaluation.outcome.invariant =
        ((snapshot.evaluations rules mode).flatMap Evaluation.violations).filter fun violation =>
          (violation.cache, violation.invariant) = evaluation.subject := by
    rw [Report.violationsUnder, Report.violationsOf, List.filter_filter]
    refine List.filter_congr fun violation _ => Bool.eq_iff_iff.mpr ?_
    rw [Bool.and_eq_true, decide_eq_true_iff, decide_eq_true_iff, decide_eq_true_iff, and_comm,
      Evaluation.subject, Prod.mk.injEq]
    exact Iff.rfl
  have hsource : ∀ other ∈ snapshot.evaluations rules mode, ∀ violation ∈ other.violations,
      decide ((violation.cache, violation.invariant) = evaluation.subject) =
        decide (other.subject = evaluation.subject) := by
    intro other hother violation hviolation
    rw [subject_of_mem_violations hother hviolation]
  rw [hunder, filter_flatMap_of_source hsource,
    filter_key_eq_singleton (nodup_subjects_evaluations snapshot mode hrules) hevaluation,
    List.flatMap_singleton]

theorem outcomesOf_check (snapshot : Snapshot) (rules : List Rule) (mode : Mode) (id : CacheId) :
    (snapshot.check rules mode).outcomesOf id =
      ((snapshot.evaluations rules mode).filter fun evaluation =>
        evaluation.task.cache.id = id).map Evaluation.outcome :=
  List.filter_map

theorem countViolations_outcomesOf_check
    (snapshot : Snapshot) (rules : List Rule) (mode : Mode) (id : CacheId) :
    Report.countViolations ((snapshot.check rules mode).outcomesOf id) =
      ((snapshot.check rules mode).violationsOf id).length := by
  rw [outcomesOf_check, countViolations_map_outcome, violationsOf_check]

/-! ## Skipped tasks -/

/-- A task is skipped only by a run that fails fast, and only behind a failure. -/
theorem failFast_of_skipped
    {outcome : Outcome} (houtcome : outcome ∈ (snapshot.check rules mode).outcomes)
    (hskipped : outcome.verdict = .skipped) :
    mode = .failFast ∧ (snapshot.check rules mode).isClean = false := by
  cases mode with
  | exhaustive =>
      obtain ⟨evaluation, hevaluation, rfl⟩ := List.mem_map.mp houtcome
      obtain ⟨task, -, rfl⟩ := List.mem_map.mp hevaluation
      cases Evaluation.verdict_eq_skipped_iff.mp hskipped
  | failFast =>
      refine ⟨rfl, Bool.eq_false_iff.mpr fun hclean => ?_⟩
      rw [isClean_check_failFast, isClean_check_exhaustive_iff] at hclean
      have hdivide := divideAtFailure_check snapshot rules
      generalize (snapshot.check rules .exhaustive).outcomes = all at hclean hdivide
      generalize (snapshot.check rules .failFast).outcomes = stopped at houtcome hdivide
      -- Behind a failure the exhaustive run has it too, so that it is not clean.
      cases hdivide with
      | never hpass =>
          rw [hpass outcome houtcome] at hskipped
          cases hskipped
      | behind front rest cache invariant n hfront =>
          cases hclean ⟨cache, invariant, .fail (n + 1)⟩ (by simp)

end Snapshot

/-! ## The balance -/

/-- Outcomes and violations of a report on a snapshot account for each other. -/
structure Report.Balanced (report : Report) (snapshot : Snapshot) (rules : List Rule) :
    Prop where
  subjects_eq : report.outcomes.map Outcome.subject = snapshot.ids ×ˢ rules.map Rule.invariant
  nodup_subjects : (report.outcomes.map Outcome.subject).Nodup
  fail_iff : ∀ outcome ∈ report.outcomes, ∀ n, outcome.verdict = .fail n ↔
    n = (report.violationsUnder outcome.cache outcome.invariant).length ∧ 0 < n
  none_under : ∀ outcome ∈ report.outcomes,
    outcome.verdict = .pass ∨ outcome.verdict = .skipped →
      report.violationsUnder outcome.cache outcome.invariant = []
  flatMap_violationsUnder :
    (report.outcomes.flatMap fun outcome =>
      report.violationsUnder outcome.cache outcome.invariant) = report.violations
  count_eq : Report.countViolations report.outcomes = report.violations.length
  verdict_fail : ∀ id, report.violationsOf id ≠ [] →
    report.cacheVerdict id = .fail (report.violationsOf id).length
  verdict_skipped : ∀ id, report.violationsOf id = [] →
    (∃ outcome ∈ report.outcomesOf id, outcome.verdict = .skipped) →
      report.cacheVerdict id = .skipped
  verdict_pass : ∀ id, report.violationsOf id = [] →
    (∀ outcome ∈ report.outcomesOf id, outcome.verdict ≠ .skipped) →
      report.cacheVerdict id = .pass
  skipped_only : ∀ outcome ∈ report.outcomes, outcome.verdict = .skipped →
    report.mode = .failFast ∧ report.isClean = false

namespace Report

variable {report : Report} {id : CacheId}

theorem cacheVerdict_of_count_pos
    (hcount : 0 < countViolations (report.outcomesOf id)) :
    report.cacheVerdict id = .fail (countViolations (report.outcomesOf id)) := by
  rw [cacheVerdict, if_pos hcount]

theorem cacheVerdict_of_skipped
    (hcount : countViolations (report.outcomesOf id) = 0)
    (hskipped : ∃ outcome ∈ report.outcomesOf id, outcome.verdict = .skipped) :
    report.cacheVerdict id = .skipped := by
  have hany : ((report.outcomesOf id).any fun outcome => outcome.verdict = .skipped) = true := by
    obtain ⟨outcome, houtcome, hverdict⟩ := hskipped
    exact List.any_eq_true.mpr ⟨outcome, houtcome, decide_eq_true hverdict⟩
  rw [cacheVerdict, if_neg (by omega), if_pos hany]

end Report

namespace Snapshot

/-- The report of a check is balanced, whatever the mode, when the table has one
rule for an invariant. -/
theorem balanced_check
    (snapshot : Snapshot) {rules : List Rule} (mode : Mode)
    (hrules : (rules.map Rule.invariant).Nodup) :
    (snapshot.check rules mode).Balanced snapshot rules := by
  have hsubjects : (snapshot.check rules mode).outcomes.map Outcome.subject =
      (snapshot.evaluations rules mode).map Evaluation.subject := List.map_map
  have hcount := snapshot.countViolations_outcomesOf_check rules mode
  constructor
  case subjects_eq => rw [hsubjects, subjects_evaluations]
  case nodup_subjects =>
    rw [hsubjects]
    exact snapshot.nodup_subjects_evaluations mode hrules
  case fail_iff =>
    intro outcome houtcome n
    obtain ⟨evaluation, hevaluation, rfl⟩ := List.mem_map.mp houtcome
    rw [violationsUnder_check hrules hevaluation]
    exact Evaluation.verdict_eq_fail_iff
  case none_under =>
    intro outcome houtcome hverdict
    obtain ⟨evaluation, hevaluation, rfl⟩ := List.mem_map.mp houtcome
    rw [violationsUnder_check hrules hevaluation]
    refine Evaluation.violations_eq_nil_of_verdict fun n hfail => ?_
    rcases hverdict with hpass | hskipped
    · cases hfail.symm.trans hpass
    · cases hfail.symm.trans hskipped
  case flatMap_violationsUnder =>
    rw [check, List.flatMap_map]
    exact List.flatMap_congr fun evaluation hevaluation => violationsUnder_check hrules hevaluation
  case count_eq => exact countViolations_map_outcome _
  case verdict_fail =>
    intro id hne
    have hpos : 0 < ((snapshot.check rules mode).violationsOf id).length :=
      List.length_pos_iff.mpr hne
    rw [← hcount] at hpos ⊢
    exact Report.cacheVerdict_of_count_pos hpos
  case verdict_skipped =>
    intro id hnil hskipped
    refine Report.cacheVerdict_of_skipped ?_ hskipped
    rw [hcount, hnil, List.length_nil]
  case verdict_pass =>
    intro id hnil hskipped
    refine Report.cacheVerdict_eq_pass_iff.mpr ⟨?_, hskipped⟩
    rw [← Report.countViolations_eq_zero_iff, hcount, hnil, List.length_nil]
  case skipped_only =>
    intro outcome houtcome hskipped
    exact failFast_of_skipped houtcome hskipped

/-- The report of a check against the protocol is balanced in both modes. -/
theorem balanced_check_mesi (snapshot : Snapshot) (mode : Mode) :
    (snapshot.check Protocol.mesi.rules mode).Balanced snapshot Protocol.mesi.rules :=
  snapshot.balanced_check mode Protocol.nodup_invariants_mesi

end Snapshot

end CacheCoherence
