import CacheCoherence.Coherence.Check
import Mathlib.Data.List.Basic

/-!
# Failing fast

A check that fails fast is compared with the exhaustive check of the same
snapshot.  The outcomes of the two runs divide at the first failure: before it
they are the same, the run that fails fast counts one violation there, and it
skips what is behind.  Without a failure they do not divide at all.

The division is proved by induction on the tasks, for any way of finding
violations.  What the two reports have in common is read off it.
-/

namespace CacheCoherence

/-! ## Two runs over the same tasks -/

/-- The outcome of the same task, had it not been evaluated. -/
def Outcome.skip (outcome : Outcome) : Outcome :=
  { outcome with verdict := .skipped }

/-- The outcomes of a run over all tasks, beside those of a run that ends with the
first failure. -/
inductive DivideAtFailure : List Outcome → List Outcome → Prop
  | never {outcomes : List Outcome}
      (hpass : ∀ outcome ∈ outcomes, outcome.verdict = .pass) :
      DivideAtFailure outcomes outcomes
  | behind (front rest : List Outcome) (cache : CacheId) (invariant : Invariant) (n : Nat)
      (hfront : ∀ outcome ∈ front, outcome.verdict = .pass) :
      DivideAtFailure (front ++ ⟨cache, invariant, .fail (n + 1)⟩ :: rest)
        (front ++ ⟨cache, invariant, .fail 1⟩ :: rest.map Outcome.skip)

theorem DivideAtFailure.cons
    {all stopped : List Outcome} (h : DivideAtFailure all stopped) (outcome : Outcome)
    (hpass : outcome.verdict = .pass) :
    DivideAtFailure (outcome :: all) (outcome :: stopped) := by
  cases h with
  | never hall => exact .never (List.forall_mem_cons.mpr ⟨hpass, hall⟩)
  | behind front rest cache invariant n hfront =>
      exact .behind (outcome :: front) rest cache invariant n
        (List.forall_mem_cons.mpr ⟨hpass, hfront⟩)

theorem outcomes_skipped (find : Task → List Violation) (tasks : List Task) :
    (tasks.map fun task => (⟨task, none⟩ : Evaluation)).map Evaluation.outcome =
      ((evaluateAll find tasks).map Evaluation.outcome).map Outcome.skip := by
  simp only [evaluateAll, List.map_map]
  rfl

theorem divideAtFailure_evaluate (find : Task → List Violation) (tasks : List Task) :
    DivideAtFailure ((evaluateAll find tasks).map Evaluation.outcome)
      ((evaluateUntilFound find tasks).map Evaluation.outcome) := by
  induction tasks with
  | nil => exact .never (by simp [evaluateAll])
  | cons task rest ih =>
      rw [evaluateUntilFound]
      cases hfind : find task with
      | nil =>
          have hcons := ih.cons (Evaluation.outcome ⟨task, some []⟩) rfl
          simpa only [evaluateAll, List.map_cons, hfind] using hcons
      | cons first others =>
          simp only [List.map_cons, outcomes_skipped find rest, evaluateAll, hfind]
          exact .behind [] _ _ _ _ (by simp)

/-! ## Outcomes of a run that stopped -/

/-- Whether a verdict says that something was found. -/
def Verdict.isFail : Verdict → Bool
  | fail _ => true
  | _ => false

/-- The cache and the invariant that an outcome is about. -/
def Outcome.subject (outcome : Outcome) : CacheId × Invariant :=
  (outcome.cache, outcome.invariant)

/-- The outcomes of a run that stopped at the task with number `k`, beside the
outcomes of the run over all tasks. -/
structure StoppedAt (k : Nat) (all stopped : List Outcome) : Prop where
  length_eq : stopped.length = all.length
  subjects_eq : stopped.map Outcome.subject = all.map Outcome.subject
  take_eq : stopped.take k = all.take k
  pass_before : ∀ outcome ∈ all.take k, outcome.verdict = .pass
  fail_at : stopped[k]?.map Outcome.verdict = some (.fail 1)
  skipped_behind : ∀ outcome ∈ stopped.drop (k + 1), outcome.verdict = .skipped

theorem stoppedAt_findIdx
    {front rest : List Outcome} {cache : CacheId} {invariant : Invariant} {n : Nat}
    (hfront : ∀ outcome ∈ front, outcome.verdict = .pass) :
    let all := front ++ ⟨cache, invariant, .fail (n + 1)⟩ :: rest
    StoppedAt (all.findIdx fun outcome => outcome.verdict.isFail) all
      (front ++ ⟨cache, invariant, .fail 1⟩ :: rest.map Outcome.skip) := by
  intro all
  have hindex : (all.findIdx fun outcome => outcome.verdict.isFail) = front.length := by
    have hnone : (front.findIdx fun outcome => outcome.verdict.isFail) = front.length := by
      refine List.findIdx_eq_length_of_false fun outcome hmem => ?_
      rw [hfront outcome hmem]
      rfl
    rw [List.findIdx_append, hnone, if_neg (Nat.lt_irrefl _), List.findIdx_cons]
    exact Nat.zero_add _
  rw [hindex]
  constructor
  · simp [all]
  · simp [all, Outcome.subject, Outcome.skip]
  · simp [all]
  · simpa [all] using hfront
  · simp
  · intro outcome hmem
    have hdrop : (front ++ ⟨cache, invariant, .fail 1⟩ :: rest.map Outcome.skip).drop
        (front.length + 1) = rest.map Outcome.skip := by
      simp [List.drop_append]
    rw [hdrop] at hmem
    obtain ⟨later, -, rfl⟩ := List.mem_map.mp hmem
    rfl

/-! ## Caches that pass -/

namespace Report

theorem countViolations_eq_zero_iff (outcomes : List Outcome) :
    countViolations outcomes = 0 ↔ ∀ outcome ∈ outcomes, outcome.verdict.violations = 0 := by
  induction outcomes with
  | nil => simp [countViolations]
  | cons outcome rest ih =>
      have hcons : countViolations (outcome :: rest) =
          outcome.verdict.violations + countViolations rest := rfl
      rw [hcons, Nat.add_eq_zero_iff, ih, List.forall_mem_cons]

theorem mem_outcomesOf_iff {report : Report} {id : CacheId} {outcome : Outcome} :
    outcome ∈ report.outcomesOf id ↔ outcome ∈ report.outcomes ∧ outcome.cache = id := by
  simp [outcomesOf]

theorem cacheVerdict_eq_pass_iff {report : Report} {id : CacheId} :
    report.cacheVerdict id = .pass ↔
      (∀ outcome ∈ report.outcomesOf id, outcome.verdict.violations = 0) ∧
        ∀ outcome ∈ report.outcomesOf id, outcome.verdict ≠ .skipped := by
  have hany : (report.outcomesOf id).any (fun outcome => outcome.verdict = .skipped) = true ↔
      ∃ outcome ∈ report.outcomesOf id, outcome.verdict = .skipped := by
    simp only [List.any_eq_true, decide_eq_true_iff]
  rw [cacheVerdict, ← countViolations_eq_zero_iff]
  split
  next hcount =>
    constructor
    · intro hpass
      cases hpass
    · intro hpass
      omega
  next hcount =>
    split
    next hskipped =>
      obtain ⟨outcome, houtcome, hverdict⟩ := hany.mp hskipped
      constructor
      · intro hpass
        cases hpass
      · intro hpass
        exact absurd hverdict (hpass.2 outcome houtcome)
    next hnone =>
      have hnot : ∀ outcome ∈ report.outcomesOf id, outcome.verdict ≠ .skipped := by
        intro outcome houtcome hverdict
        exact hnone (hany.mpr ⟨outcome, houtcome, hverdict⟩)
      exact iff_of_true rfl ⟨by omega, hnot⟩

/-- A cache passes when none of its outcomes counts a violation and none was
skipped. -/
theorem cachePassed_iff {report : Report} {id : CacheId} :
    report.cachePassed id = true ↔
      ∀ outcome ∈ report.outcomes, outcome.cache = id →
        outcome.verdict.violations = 0 ∧ outcome.verdict ≠ .skipped := by
  rw [cachePassed, decide_eq_true_iff, cacheVerdict_eq_pass_iff]
  constructor
  · rintro ⟨hzero, hskipped⟩ outcome houtcome hid
    have hof := mem_outcomesOf_iff.mpr ⟨houtcome, hid⟩
    exact ⟨hzero outcome hof, hskipped outcome hof⟩
  · intro hpass
    constructor
    · intro outcome hof
      obtain ⟨houtcome, hid⟩ := mem_outcomesOf_iff.mp hof
      exact (hpass outcome houtcome hid).1
    · intro outcome hof
      obtain ⟨houtcome, hid⟩ := mem_outcomesOf_iff.mp hof
      exact (hpass outcome houtcome hid).2

/-- A cache that passes in the run that fails fast was evaluated there to the end,
and passes in the exhaustive run for the same reasons. -/
theorem cachePassed_of_divideAtFailure
    {all stopped : Report} (h : DivideAtFailure all.outcomes stopped.outcomes)
    {id : CacheId} (hpassed : stopped.cachePassed id = true) :
    all.cachePassed id = true := by
  rw [cachePassed_iff] at hpassed ⊢
  generalize all.outcomes = outcomes at h
  generalize stopped.outcomes = stoppedOutcomes at h hpassed
  cases h with
  | never => exact hpassed
  | behind front rest cache invariant n =>
      intro outcome hmem hid
      rcases List.mem_append.mp hmem with hfront | hmem
      · exact hpassed outcome (List.mem_append_left _ hfront) hid
      · rcases List.mem_cons.mp hmem with rfl | hrest
        · -- The failure itself is kept, with a smaller count.
          have hcount := (hpassed ⟨cache, invariant, .fail 1⟩ (by simp) hid).1
          cases hcount
        · -- What is behind it was skipped, and does not count as passed.
          have hskip : outcome.skip ∈ rest.map Outcome.skip :=
            List.mem_map.mpr ⟨outcome, hrest, rfl⟩
          have hstopped := List.mem_append_right front
            (List.mem_cons_of_mem (⟨cache, invariant, .fail 1⟩ : Outcome) hskip)
          exact absurd rfl (hpassed outcome.skip hstopped hid).2

end Report

/-! ## The two reports -/

namespace Snapshot

theorem violations_check_failFast (snapshot : Snapshot) (rules : List Rule) :
    (snapshot.check rules .failFast).violations =
      (snapshot.check rules .exhaustive).violations.take 1 :=
  violations_evaluateUntilFound (Task.findings snapshot) (snapshot.tasks rules)

theorem isClean_check_failFast (snapshot : Snapshot) (rules : List Rule) :
    (snapshot.check rules .failFast).isClean =
      (snapshot.check rules .exhaustive).isClean := by
  rw [Report.isClean, violations_check_failFast, Report.isClean]
  cases (snapshot.check rules .exhaustive).violations <;> rfl

theorem divideAtFailure_check (snapshot : Snapshot) (rules : List Rule) :
    DivideAtFailure (snapshot.check rules .exhaustive).outcomes
      (snapshot.check rules .failFast).outcomes :=
  divideAtFailure_evaluate (Task.findings snapshot) (snapshot.tasks rules)

/-- An exhaustive report is clean when each of its outcomes is. -/
theorem isClean_check_exhaustive_iff {snapshot : Snapshot} {rules : List Rule} :
    (snapshot.check rules .exhaustive).isClean = true ↔
      ∀ outcome ∈ (snapshot.check rules .exhaustive).outcomes, outcome.verdict = .pass := by
  have hpass : ∀ task : Task,
      (Evaluation.outcome ⟨task, some (task.findings snapshot)⟩).verdict = .pass ↔
        task.findings snapshot = [] := by
    intro task
    simp only [Evaluation.outcome, Evaluation.verdict]
    cases task.findings snapshot <;> simp
  simp only [Report.isClean_iff, check, evaluations, Mode.evaluate, evaluateAll,
    List.flatMap_map, List.flatMap_eq_nil_iff, Evaluation.violations, Option.getD_some,
    List.map_map, List.forall_mem_map, Function.comp, hpass]

/-- A check that fails fast reports the first violation of the exhaustive check,
and has its outcomes up to the first failure. -/
theorem failFast_stops_at_first_failure (snapshot : Snapshot) (rules : List Rule) :
    let ex := snapshot.check rules .exhaustive
    let ff := snapshot.check rules .failFast
    ff.violations = ex.violations.take 1 ∧
      ff.isClean = ex.isClean ∧
      (if ex.isClean then ff.outcomes = ex.outcomes
        else StoppedAt (ex.outcomes.findIdx fun outcome => outcome.verdict.isFail)
          ex.outcomes ff.outcomes) ∧
      ∀ id, ff.cachePassed id = true → ex.cachePassed id = true := by
  intro ex ff
  have hdivide : DivideAtFailure ex.outcomes ff.outcomes := snapshot.divideAtFailure_check rules
  have hclean : ex.isClean = true ↔ ∀ outcome ∈ ex.outcomes, outcome.verdict = .pass :=
    isClean_check_exhaustive_iff
  refine ⟨snapshot.violations_check_failFast rules, snapshot.isClean_check_failFast rules, ?_,
    fun id => Report.cachePassed_of_divideAtFailure hdivide⟩
  generalize ex.outcomes = outcomes at hdivide hclean
  generalize ff.outcomes = stoppedOutcomes at hdivide
  cases hdivide with
  | never hpass => rw [if_pos (hclean.mpr hpass)]
  | behind front rest cache invariant n hfront =>
      have hfail : ex.isClean ≠ true := by
        intro hcleanEx
        cases hclean.mp hcleanEx ⟨cache, invariant, .fail (n + 1)⟩ (by simp)
      rw [if_neg hfail]
      exact stoppedAt_findIdx hfront

end Snapshot

end CacheCoherence
