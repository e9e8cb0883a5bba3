import CacheCoherence.Proofs.Coherence.Balance
import CacheCoherence.Proofs.Coherence.Mirror
import CacheCoherence.Viewer.Panes

/-!
# Passing and taking part

The verdict on a cache adds up the violations with the cache as their subject, while
the results of a cache list all violations in which it takes part.  After an
exhaustive check the one is a pass exactly when the other is empty, since a conflict
that is found at a peer is found at the cache as well.

The viewer shows both at once, the verdict in the list of caches and the violations
beside it, so that the two panes never contradict each other.
-/

namespace CacheCoherence

/-! ## Passing -/

namespace Snapshot

variable {snapshot : Snapshot} {id : CacheId}

theorem cachePassed_check_exhaustive_iff
    {rules : List Rule} (hrules : (rules.map Rule.invariant).Nodup) :
    (snapshot.check rules .exhaustive).cachePassed id = true ↔
      (snapshot.check rules .exhaustive).violationsOf id = [] := by
  have hbalanced := snapshot.balanced_check .exhaustive hrules
  rw [Report.cachePassed, decide_eq_true_iff]
  constructor
  · intro hpass
    by_contra hne
    cases hpass.symm.trans (hbalanced.verdict_fail id hne)
  · intro hnil
    refine hbalanced.verdict_pass id hnil fun outcome houtcome hskipped => ?_
    have hmem : outcome ∈ (snapshot.check rules .exhaustive).outcomes :=
      (Report.mem_outcomesOf_iff.mp houtcome).1
    cases (hbalanced.skipped_only outcome hmem hskipped).1

/-- A cache that takes part in a violation is the subject of one. -/
theorem Violates.exists_subject_of_involves
    {violation : Violation} (h : snapshot.Violates violation)
    (hinvolves : violation.involves id = true) :
    ∃ other, snapshot.Violates other ∧ other.cache = id := by
  rcases Violation.involves_eq_true_iff.mp hinvolves with hsubject | ⟨state, hkind⟩
  · exact ⟨violation, h, hsubject⟩
  · have hconflict : violation.isConflictOf violation.cache id = true :=
      Violation.isConflictOf_eq_true_iff.mpr ⟨rfl, state, hkind⟩
    obtain ⟨mirrored, hmirrored, hback, -, -⟩ := h.exists_mirror? hconflict
    exact ⟨mirrored, hmirrored, (Violation.isConflictOf_eq_true_iff.mp hback).1⟩

theorem violationsOf_eq_nil_iff_not_involves :
    (snapshot.check Protocol.mesi.rules .exhaustive).violationsOf id = [] ↔
      ∀ violation ∈ (snapshot.check Protocol.mesi.rules .exhaustive).violations,
        violation.involves id = false := by
  rw [Report.violationsOf, List.filter_eq_nil_iff]
  constructor
  · intro hnone violation hviolation
    by_contra hinvolves
    obtain ⟨other, hother, hsubject⟩ :=
      (mem_violations_check_mesi.mp hviolation).exists_subject_of_involves
        (eq_true_of_ne_false hinvolves)
    exact hnone other (mem_violations_check_mesi.mpr hother) (decide_eq_true hsubject)
  · intro hnone violation hviolation hsubject
    have hinvolves : violation.involves id = true :=
      Violation.involves_eq_true_iff.mpr (Or.inl (of_decide_eq_true hsubject))
    rw [hnone violation hviolation] at hinvolves
    cases hinvolves

end Snapshot

/-! ## What the panes show -/

namespace Viewer

/-- The row of a cache ends with the label of its verdict. -/
theorem CachesPane.getLast?_spans_item
    (statistics : Statistics) (report : Report) (selected : Bool) (id : CacheId) :
    ((item statistics report selected id).spans.map Span.text).getLast? =
      some (" " ++ (report.cacheVerdict id).label ++ " ") := rfl

theorem label_eq_pass_iff {verdict : Verdict} :
    " " ++ verdict.label ++ " " = " PASS " ↔ verdict = .pass := by
  cases verdict <;> simp [Verdict.label]

/-- The notice that no violation involves a cache stands in place of a list of none. -/
theorem ResultsPane.violationItems_eq_notice_iff {violations : List Violation} :
    violationItems violations =
        [.ofText "(no violations involve this cache)" (.colour Theme.comment)] ↔
      violations = [] := by
  unfold violationItems
  split
  next hnil => exact iff_of_true rfl hnil
  next hne =>
    refine iff_of_false (fun heq => ?_) hne
    have htail := congrArg List.tail heq
    exact hne (List.map_eq_nil_iff.mp htail)

theorem ResultsPane.items_eq_notice_iff {report : Report} {id : CacheId} :
    items report (some id) = (report.outcomesOf id).map outcomeItem ++ [.blank] ++
        [.ofText "(no violations involve this cache)" (.colour Theme.comment)] ↔
      ∀ violation ∈ report.violations, violation.involves id = false := by
  rw [items, List.append_cancel_left_eq, violationItems_eq_notice_iff,
    Report.violationsInvolving, List.filter_eq_nil_iff]
  simp only [Bool.not_eq_true]

end Viewer

/-- After an exhaustive check a cache passes exactly when no violation involves it,
and then the list of caches says so and the results of the cache list none. -/
theorem Snapshot.cachePassed_iff_not_involved (snapshot : Snapshot) (id : CacheId) :
    let report := snapshot.check Protocol.mesi.rules .exhaustive
    (report.cachePassed id = true ↔
        ∀ violation ∈ report.violations, violation.involves id = false) ∧
      ∀ (statistics : Statistics) (selected : Bool),
        ((Viewer.CachesPane.item statistics report selected id).spans.map
            Viewer.Span.text).getLast? = some " PASS " ↔
          Viewer.ResultsPane.items report (some id) =
            (report.outcomesOf id).map Viewer.ResultsPane.outcomeItem ++ [.blank] ++
              [.ofText "(no violations involve this cache)"
                (.colour Viewer.Theme.comment)] := by
  intro report
  have hpassed : report.cachePassed id = true ↔
      ∀ violation ∈ report.violations, violation.involves id = false := by
    rw [cachePassed_check_exhaustive_iff Protocol.nodup_invariants_mesi,
      violationsOf_eq_nil_iff_not_involves]
  refine ⟨hpassed, fun statistics selected => ?_⟩
  rw [Viewer.CachesPane.getLast?_spans_item, Option.some.injEq, Viewer.label_eq_pass_iff,
    Viewer.ResultsPane.items_eq_notice_iff, ← hpassed, Report.cachePassed, decide_eq_true_iff]

end CacheCoherence
