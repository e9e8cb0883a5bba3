import CacheCoherence.Coherence.Findings
import CacheCoherence.Coherence.Report

/-!
# Evaluating rules in order

A check consists of tasks, a rule with a cache as the subject each.  An
exhaustive run evaluates every task.  A run that fails fast ends with the first
violation of the first task that finds one, and all later tasks are skipped.
Both are described for any way of finding violations; a run keeps a list of
violations for each task that it evaluated, and outcomes and violations of a
report are read off these lists.
-/

namespace CacheCoherence

/-- One evaluation of a check: a rule, with a cache as the subject. -/
structure Task where
  cache : Cache
  rule : Rule

namespace Task

def findings (snapshot : Snapshot) (task : Task) : List Violation :=
  task.rule.findings snapshot task.cache

end Task

/-- The evaluations of a check in their order: the caches as in the snapshot, and
for each the rules as in the table. -/
def Snapshot.tasks (snapshot : Snapshot) (rules : List Rule) : List Task :=
  snapshot.caches.flatMap fun cache => rules.map fun rule => ⟨cache, rule⟩

/-- When the caches of one snapshot are those of another one changed, so are the tasks. -/
theorem Snapshot.tasks_of_caches_eq_map {snapshot other : Snapshot} {f : Cache → Cache}
    (hcaches : other.caches = snapshot.caches.map f) (rules : List Rule) :
    other.tasks rules =
      (snapshot.tasks rules).map fun task => ⟨f task.cache, task.rule⟩ := by
  rw [tasks, hcaches, List.flatMap_map, tasks, List.map_flatMap]
  simp only [List.map_map]
  rfl

/-- A task of a run with the violations that are kept of it, if it was evaluated. -/
structure Evaluation where
  task : Task
  kept? : Option (List Violation)

namespace Evaluation

def violations (evaluation : Evaluation) : List Violation :=
  evaluation.kept?.getD []

def verdict (evaluation : Evaluation) : Verdict :=
  match evaluation.kept? with
  | none => .skipped
  | some [] => .pass
  | some kept => .fail kept.length

def outcome (evaluation : Evaluation) : Outcome :=
  ⟨evaluation.task.cache.id, evaluation.task.rule.invariant, evaluation.verdict⟩

end Evaluation

def evaluateAll (find : Task → List Violation) (tasks : List Task) : List Evaluation :=
  tasks.map fun task => ⟨task, some (find task)⟩

/-- Evaluates tasks up to the first violation, which is the only one kept, and
skips the tasks behind it. -/
def evaluateUntilFound (find : Task → List Violation) : List Task → List Evaluation
  | [] => []
  | task :: rest =>
    match find task with
    | [] => ⟨task, some []⟩ :: evaluateUntilFound find rest
    | first :: _ => ⟨task, some [first]⟩ :: rest.map fun later => ⟨later, none⟩

def Mode.evaluate (mode : Mode) (find : Task → List Violation) (tasks : List Task) :
    List Evaluation :=
  match mode with
  | exhaustive => evaluateAll find tasks
  | failFast => evaluateUntilFound find tasks

theorem tasks_evaluateAll (find : Task → List Violation) (tasks : List Task) :
    (evaluateAll find tasks).map Evaluation.task = tasks := by
  simp [evaluateAll, Function.comp_def]

theorem tasks_evaluateUntilFound (find : Task → List Violation) (tasks : List Task) :
    (evaluateUntilFound find tasks).map Evaluation.task = tasks := by
  induction tasks with
  | nil => rfl
  | cons task rest ih =>
    unfold evaluateUntilFound
    split <;> simp [ih, Function.comp_def]

/-- A run has an evaluation for each task, in the order of the tasks. -/
theorem Mode.tasks_evaluate (mode : Mode) (find : Task → List Violation) (tasks : List Task) :
    (mode.evaluate find tasks).map Evaluation.task = tasks := by
  cases mode
  · exact tasks_evaluateAll find tasks
  · exact tasks_evaluateUntilFound find tasks

/-- When changed tasks find the changed violations, a run over them is the changed run: it
skips the same tasks. -/
theorem Mode.evaluate_map {find found : Task → List Violation} {f : Task → Task}
    {g : Violation → Violation} {tasks : List Task}
    (hfind : ∀ task ∈ tasks, found (f task) = (find task).map g) (mode : Mode) :
    mode.evaluate found (tasks.map f) =
      (mode.evaluate find tasks).map fun evaluation =>
        ⟨f evaluation.task, evaluation.kept?.map (List.map g)⟩ := by
  cases mode with
  | exhaustive =>
    simp only [evaluate, evaluateAll, List.map_map]
    refine List.map_congr_left fun task htask => ?_
    simp only [Function.comp_apply, hfind task htask, Option.map_some]
  | failFast =>
    simp only [evaluate]
    induction tasks with
    | nil => rfl
    | cons task rest ih =>
      obtain ⟨hfirst, hrest⟩ := List.forall_mem_cons.1 hfind
      rw [List.map_cons, evaluateUntilFound, hfirst, evaluateUntilFound]
      cases find task with
      | nil => simp only [List.map_nil, List.map_cons, ih hrest, Option.map_some]
      | cons first others =>
        simp only [List.map_cons, List.map_nil, List.map_map, Option.map_some]
        rfl

/-- What a run keeps that fails fast is the first of all violations. -/
theorem violations_evaluateUntilFound (find : Task → List Violation) (tasks : List Task) :
    (evaluateUntilFound find tasks).flatMap Evaluation.violations =
      ((evaluateAll find tasks).flatMap Evaluation.violations).take 1 := by
  induction tasks with
  | nil => rfl
  | cons task rest ih =>
    unfold evaluateUntilFound
    split
    · next h => simpa [evaluateAll, Evaluation.violations, h] using ih
    · next first others h =>
      simp [evaluateAll, Evaluation.violations, h, List.flatMap_map]

end CacheCoherence
