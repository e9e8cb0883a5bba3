import CacheCoherence.Proofs.Report.Lines

/-!
# What the text report shows of the tests

A reader of the text report looks for three kinds of lines: those that name a cache whose
tests follow, those with an outcome, and those with a violation, behind two tabs.  It takes
the violations directly below an outcome for those that the outcome counts.

No other line of the report can be taken for one of these, so that the reader finds the
outcomes of the caches and the violations below them, whatever the report is of.
-/

namespace CacheCoherence

/-! ## Reading lines -/

/-- The text of the violation that a line shows. -/
def violationText? (line : Text) : Option Text :=
  ['\t', '\t'].isPrefixOf? line

/-- The cache whose tests a line announces. -/
def testedCache? (line : Text) : Option Text :=
  "Testing cache ".toList.isPrefixOf? line

/-- The label and the test of the outcome that a line shows. -/
def outcomeText? (line : Text) : Option (Text × Text) :=
  ["PASS", "FAIL", "SKIP"].findSome? fun label =>
    (('\t' :: (label.toList ++ [':', ' '])).isPrefixOf? line).map fun test => (label.toList, test)

/-- An outcome as a report shows it, with the violations directly below. -/
structure ShownOutcome where
  cache : Text
  label : Text
  test : Text
  below : List Text

/-- The violations of the lines in front of the first line without one. -/
def violationsAhead (lines : List Text) : List Text :=
  (lines.takeWhile fun line => (violationText? line).isSome).filterMap violationText?

/-- The outcomes that lines show, the first ones for a given cache. -/
def shownOutcomes (cache : Text) : List Text → List ShownOutcome
  | [] => []
  | line :: rest =>
    match testedCache? line with
    | some next => shownOutcomes next rest
    | none =>
      match outcomeText? line with
      | some (label, test) =>
        ⟨cache, label, test, violationsAhead rest⟩ :: shownOutcomes cache rest
      | none => shownOutcomes cache rest

/-! ## Lines by their beginning -/

/-- A line that neither announces tests nor shows an outcome. -/
structure IsAside (line : Text) : Prop where
  no_cache : testedCache? line = none
  no_outcome : outcomeText? line = none

theorem violationText?_tabs (text : Text) :
    violationText? (['\t', '\t'] ++ text) = some text :=
  Text.isPrefixOf?_eq_some_iff.mpr rfl

theorem isAside_tabs (text : Text) : IsAside (['\t', '\t'] ++ text) :=
  ⟨rfl, rfl⟩

theorem shownOutcomes_cons_of_cache
    {line next : Text} (hline : testedCache? line = some next) (cache : Text)
    (rest : List Text) : shownOutcomes cache (line :: rest) = shownOutcomes next rest := by
  rw [shownOutcomes, hline]

theorem shownOutcomes_cons_of_outcome
    {line label test : Text} (hcache : testedCache? line = none)
    (houtcome : outcomeText? line = some (label, test)) (cache : Text) (rest : List Text) :
    shownOutcomes cache (line :: rest) =
      ⟨cache, label, test, violationsAhead rest⟩ :: shownOutcomes cache rest := by
  rw [shownOutcomes, hcache, houtcome]

theorem shownOutcomes_append_asides
    {lines : List Text} (hlines : ∀ line ∈ lines, IsAside line) (cache : Text)
    (rest : List Text) : shownOutcomes cache (lines ++ rest) = shownOutcomes cache rest := by
  induction lines with
  | nil => rfl
  | cons line lines ih =>
      obtain ⟨hline, hlines⟩ := List.forall_mem_cons.mp hlines
      rw [List.cons_append, shownOutcomes, hline.no_cache, hline.no_outcome]
      exact ih hlines

/-! ## The lines around the tests -/

/-- A line that shows nothing of the tests. -/
structure IsOutside (line : Text) : Prop extends IsAside line where
  no_violation : violationText? line = none

theorem CacheStatistics.isOutside_of_mem_lines
    {statistics : CacheStatistics} {line : String} (hline : line ∈ statistics.lines) :
    IsOutside line.toList := by
  obtain ⟨id, lastUsed, modified, exclusive, shared, invalid, total⟩ := statistics
  simp only [lines, List.mem_append, List.mem_cons, List.mem_map, List.not_mem_nil,
    or_false] at hline
  rcases hline with (((rfl | hrange) | rfl) | ⟨state, -, rfl⟩) | rfl | rfl | rfl
  · simp only [String.toList_append]
    exact ⟨⟨rfl, rfl⟩, rfl⟩
  · cases lastUsed with
    | none =>
        rw [List.mem_singleton.mp hrange]
        exact ⟨⟨rfl, rfl⟩, rfl⟩
    | some range =>
        rcases List.mem_pair.mp hrange with rfl | rfl <;>
          (rw [String.toList_append]; exact ⟨⟨rfl, rfl⟩, rfl⟩)
  · exact ⟨⟨rfl, rfl⟩, rfl⟩
  · cases state <;> (simp only [String.toList_append]; exact ⟨⟨rfl, rfl⟩, rfl⟩)
  · exact ⟨⟨rfl, rfl⟩, rfl⟩
  · rw [String.toList_append]
    exact ⟨⟨rfl, rfl⟩, rfl⟩
  · exact ⟨⟨rfl, rfl⟩, rfl⟩

theorem Verification.isOutside_resultLine (verification : Verification) :
    IsOutside verification.resultLine.toList := by
  rw [resultLine]
  split <;> (simp only [String.toList_append]; exact ⟨⟨rfl, rfl⟩, rfl⟩)

theorem filterMap_violationText?_of_isOutside
    {lines : List Text} (hlines : ∀ line ∈ lines, IsOutside line) :
    lines.filterMap violationText? = [] :=
  List.filterMap_eq_nil_iff.mpr fun line hline => (hlines line hline).no_violation

theorem violationsAhead_cons_of_none
    {line : Text} (hline : violationText? line = none) (rest : List Text) :
    violationsAhead (line :: rest) = [] := by
  simp [violationsAhead, hline]

theorem violationsAhead_of_isOutside
    {lines : List Text} (hlines : ∀ line ∈ lines, IsOutside line) : violationsAhead lines = [] := by
  cases lines with
  | nil => rfl
  | cons line rest =>
      exact violationsAhead_cons_of_none (hlines line List.mem_cons_self).no_violation rest

/-! ## The lines on the tests -/

theorem Verdict.label_eq_pass_iff {verdict : Verdict} :
    verdict.label = "PASS" ↔ verdict = .pass := by
  cases verdict <;> simp [label]

theorem Verdict.violations_of_label_ne_fail {verdict : Verdict}
    (hlabel : verdict.label ≠ "FAIL") : verdict.violations = 0 := by
  cases verdict with
  | pass => rfl
  | fail n => exact absurd rfl hlabel
  | skipped => rfl

theorem Verdict.label_cases (verdict : Verdict) :
    verdict.label = "PASS" ∨ verdict.label = "FAIL" ∨ verdict.label = "SKIP" := by
  cases verdict <;> simp [label]

namespace Outcome

/-- How an outcome is shown with some violations below it. -/
def shown (outcome : Outcome) (below : List Violation) : ShownOutcome where
  cache := outcome.cache.text.toList
  label := outcome.verdict.label.toList
  test := outcome.invariant.testName.toList
  below := below.map fun violation => violation.text.toList

def line (outcome : Outcome) : String :=
  "\t" ++ outcome.verdict.label ++ ": " ++ outcome.invariant.testName

theorem toList_line (outcome : Outcome) :
    outcome.line.toList = '\t' :: (outcome.verdict.label.toList ++
      (':' :: ' ' :: outcome.invariant.testName.toList)) := by
  simp [line]

theorem outcomeText?_line (outcome : Outcome) :
    outcomeText? outcome.line.toList =
      some (outcome.verdict.label.toList, outcome.invariant.testName.toList) := by
  rw [toList_line]
  rcases outcome.verdict.label_cases with hlabel | hlabel | hlabel <;> (rw [hlabel]; rfl)

theorem testedCache?_line (outcome : Outcome) : testedCache? outcome.line.toList = none := by
  rw [toList_line]
  rfl

theorem violationText?_line (outcome : Outcome) : violationText? outcome.line.toList = none := by
  rw [toList_line]
  rcases outcome.verdict.label_cases with hlabel | hlabel | hlabel <;> (rw [hlabel]; rfl)

end Outcome

namespace Report

/-- The violations that the report shows below an outcome. -/
def below (report : Report) (outcome : Outcome) : List Violation :=
  match outcome.verdict with
  | .fail _ => report.violationsUnder outcome.cache outcome.invariant
  | _ => []

theorem outcomeLines_eq (report : Report) (outcome : Outcome) :
    (report.outcomeLines outcome).map String.toList =
      outcome.line.toList ::
        ((report.below outcome).map fun violation => violation.text.toList).map
          (['\t', '\t'] ++ ·) := by
  obtain ⟨cache, invariant, verdict⟩ := outcome
  cases verdict with
  | pass => rfl
  | fail n => simp [outcomeLines, below, Outcome.line, Function.comp_def]
  | skipped => rfl

theorem violationsAhead_append
    (texts : List Text) {rest : List Text} (hrest : violationsAhead rest = []) :
    violationsAhead (texts.map (['\t', '\t'] ++ ·) ++ rest) = texts := by
  induction texts with
  | nil => exact hrest
  | cons text texts ih =>
      have htext := violationText?_tabs text
      rw [violationsAhead] at ih ⊢
      rw [List.map_cons, List.cons_append, List.takeWhile_cons_of_pos (by rw [htext]; rfl),
        List.filterMap_cons_some htext, ih]

theorem violationsAhead_outcomeLines
    (report : Report) (outcomes : List Outcome) {rest : List Text}
    (hrest : violationsAhead rest = []) :
    violationsAhead ((outcomes.flatMap report.outcomeLines).map String.toList ++ rest) = [] := by
  cases outcomes with
  | nil => exact hrest
  | cons outcome outcomes =>
      rw [List.flatMap_cons, List.map_append, outcomeLines_eq]
      exact violationsAhead_cons_of_none outcome.violationText?_line _

theorem shownOutcomes_outcomeLines
    (report : Report) {outcomes : List Outcome} {cache : Text}
    (hcache : ∀ outcome ∈ outcomes, outcome.cache.text.toList = cache)
    {rest : List Text} (hrest : violationsAhead rest = []) :
    shownOutcomes cache ((outcomes.flatMap report.outcomeLines).map String.toList ++ rest) =
      (outcomes.map fun outcome => outcome.shown (report.below outcome)) ++
        shownOutcomes cache rest := by
  induction outcomes with
  | nil => rfl
  | cons outcome outcomes ih =>
      obtain ⟨houtcome, houtcomes⟩ := List.forall_mem_cons.mp hcache
      -- The violations below this outcome end in front of the line of the next one.
      have hbelow := violationsAhead_outcomeLines report outcomes hrest
      have hasides : ∀ line ∈ ((report.below outcome).map fun violation =>
          violation.text.toList).map (['\t', '\t'] ++ ·), IsAside line := by
        intro line hline
        obtain ⟨text, -, rfl⟩ := List.mem_map.mp hline
        exact isAside_tabs text
      rw [List.flatMap_cons, List.map_append, outcomeLines_eq, List.append_assoc,
        List.cons_append,
        shownOutcomes_cons_of_outcome outcome.testedCache?_line outcome.outcomeText?_line,
        violationsAhead_append _ hbelow, shownOutcomes_append_asides hasides, ih houtcomes,
        ← houtcome]
      rfl

theorem testLines_eq (report : Report) (id : CacheId) :
    (report.testLines id).map String.toList =
      ("Testing cache ".toList ++ id.text.toList) ::
        ((report.outcomesOf id).flatMap report.outcomeLines).map String.toList := by
  rw [testLines, List.map_cons, String.toList_append]

theorem testedCache?_heading (id : CacheId) :
    testedCache? ("Testing cache ".toList ++ id.text.toList) = some id.text.toList :=
  Text.isPrefixOf?_eq_some_iff.mpr rfl

theorem violationsAhead_testLines
    (report : Report) (ids : List CacheId) {rest : List Text}
    (hrest : violationsAhead rest = []) :
    violationsAhead ((ids.flatMap report.testLines).map String.toList ++ rest) = [] := by
  cases ids with
  | nil => exact hrest
  | cons id ids =>
      rw [List.flatMap_cons, List.map_append, testLines_eq]
      exact violationsAhead_cons_of_none rfl _

theorem shownOutcomes_testLines
    (report : Report) (ids : List CacheId) {rest : List Text}
    (hrest : ∀ line ∈ rest, IsOutside line) (cache : Text) :
    shownOutcomes cache ((ids.flatMap report.testLines).map String.toList ++ rest) =
      (ids.flatMap report.outcomesOf).map fun outcome => outcome.shown (report.below outcome) := by
  induction ids generalizing cache with
  | nil =>
      have hasides := shownOutcomes_append_asides (fun line hline => (hrest line hline).toIsAside)
        cache []
      rwa [List.append_nil] at hasides
  | cons id ids ih =>
      have hcache : ∀ outcome ∈ report.outcomesOf id, outcome.cache.text.toList =
          id.text.toList := by
        intro outcome houtcome
        have hid : outcome.cache = id := of_decide_eq_true (List.mem_filter.mp houtcome).2
        rw [hid]
      have hahead := report.violationsAhead_testLines ids (violationsAhead_of_isOutside hrest)
      rw [List.flatMap_cons, List.map_append, testLines_eq, List.cons_append, List.cons_append,
        shownOutcomes_cons_of_cache (testedCache?_heading id), List.append_assoc,
        report.shownOutcomes_outcomeLines hcache hahead, ih, List.flatMap_cons, List.map_append]

/-! ## Violations in the lines on the tests -/

theorem filterMap_violationText?_outcomeLines (report : Report) (outcome : Outcome) :
    ((report.outcomeLines outcome).map String.toList).filterMap violationText? =
      (report.below outcome).map fun violation => violation.text.toList := by
  have htabs : (violationText? ∘ fun text => ['\t', '\t'] ++ text) = some :=
    funext violationText?_tabs
  rw [outcomeLines_eq, List.filterMap_cons_none outcome.violationText?_line,
    List.filterMap_map, htabs, List.filterMap_some]

theorem filterMap_violationText?_testLines (report : Report) (id : CacheId) :
    ((report.testLines id).map String.toList).filterMap violationText? =
      ((report.outcomesOf id).flatMap report.below).map fun violation =>
        violation.text.toList := by
  rw [testLines_eq, List.filterMap_cons_none rfl, List.map_flatMap, List.filterMap_flatMap,
    List.map_flatMap]
  exact List.flatMap_congr fun outcome _ => report.filterMap_violationText?_outcomeLines outcome

end Report

/-! ## The whole report -/

namespace Verification

/-- The lines on the tests stand between lines that show nothing of them. -/
theorem exists_lines_plain_eq (verification : Verification) :
    ∃ front back : List Text,
      (∀ line ∈ front, IsOutside line) ∧ (∀ line ∈ back, IsOutside line) ∧
        Text.lines verification.plain.toList = front ++
          ((verification.snapshot.ids.flatMap verification.report.testLines).map String.toList ++
            back) := by
  let front := ["<<<Statistics>>>"] ++
    verification.statistics.caches.flatMap CacheStatistics.lines ++ ["<<<Tests>>>"]
  refine ⟨front.map String.toList, ["<<<Result>>>", verification.resultLine].map String.toList,
    ?_, ?_, ?_⟩
  · intro line hline
    simp only [front, List.mem_map, List.mem_append, List.mem_singleton, List.mem_flatMap] at hline
    obtain ⟨line, (rfl | ⟨statistics, -, hmem⟩) | rfl, rfl⟩ := hline
    · exact ⟨⟨rfl, rfl⟩, rfl⟩
    · exact CacheStatistics.isOutside_of_mem_lines hmem
    · exact ⟨⟨rfl, rfl⟩, rfl⟩
  · intro line hline
    rcases List.mem_pair.mp hline with rfl | rfl
    · exact ⟨⟨rfl, rfl⟩, rfl⟩
    · exact verification.isOutside_resultLine
  · rw [lines_plain, plainLines, List.map_append, List.map_append, List.append_assoc]

theorem shownOutcomes_plain (verification : Verification) :
    shownOutcomes [] (Text.lines verification.plain.toList) =
      (verification.snapshot.ids.flatMap verification.report.outcomesOf).map fun outcome =>
        outcome.shown (verification.report.below outcome) := by
  obtain ⟨front, back, hfront, hback, hlines⟩ := verification.exists_lines_plain_eq
  rw [hlines, shownOutcomes_append_asides fun line hline => (hfront line hline).toIsAside]
  exact verification.report.shownOutcomes_testLines _ hback []

theorem filterMap_violationText?_plain (verification : Verification) :
    (Text.lines verification.plain.toList).filterMap violationText? =
      ((verification.snapshot.ids.flatMap verification.report.outcomesOf).flatMap
        verification.report.below).map fun violation => violation.text.toList := by
  obtain ⟨front, back, hfront, hback, hlines⟩ := verification.exists_lines_plain_eq
  rw [hlines, List.filterMap_append, List.filterMap_append,
    filterMap_violationText?_of_isOutside hfront, filterMap_violationText?_of_isOutside hback,
    List.nil_append, List.append_nil, List.map_flatMap, List.filterMap_flatMap,
    List.flatMap_assoc, List.map_flatMap]
  exact List.flatMap_congr fun id _ => verification.report.filterMap_violationText?_testLines id

theorem getLast?_lines_plain (verification : Verification) :
    (Text.lines verification.plain.toList).getLast? = some verification.resultLine.toList := by
  rw [lines_plain, plainLines, List.map_append, List.getLast?_append]
  rfl

end Verification

end CacheCoherence
