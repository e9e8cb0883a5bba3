import CacheCoherence.Proofs.Text.Lines
import CacheCoherence.Proofs.Text.Trim
import CacheCoherence.Report.Plain

/-!
# The lines of the text report

The text report consists of fixed words, of names and of numbers, none of which has a
line feed or a carriage return in it.  Whatever was verified, the report is therefore cut
into the very lines that it was built from.
-/

namespace CacheCoherence

/-! ## Texts that stay on their line -/

/-- Whether a character can stand inside a line. -/
def staysOnLine (c : Char) : Bool :=
  c ≠ '\n' && c ≠ '\r'

/-- A text without the characters that could end a line. -/
def IsUnbroken (line : String) : Prop :=
  line.toList.all staysOnLine = true

instance (line : String) : Decidable (IsUnbroken line) :=
  inferInstanceAs (Decidable (_ = true))

theorem IsUnbroken.isLine {line : String} (hline : IsUnbroken line) :
    Text.IsLine line.toList := by
  have hmem : ∀ c ∈ line.toList, staysOnLine c = true := List.all_eq_true.mp hline
  constructor
  · intro hfeed
    cases hmem '\n' hfeed
  · intro hlast
    cases hmem '\r' (List.mem_of_getLast? hlast)

@[simp] theorem isUnbroken_append {line other : String} :
    IsUnbroken (line ++ other) ↔ IsUnbroken line ∧ IsUnbroken other := by
  rw [IsUnbroken, String.toList_append, List.all_append, Bool.and_eq_true]
  exact Iff.rfl

@[simp] theorem isUnbroken_repr (n : Nat) : IsUnbroken n.repr := by
  rw [IsUnbroken, Nat.toList_repr, List.all_eq_true]
  intro c hc
  have hne : ∀ d : Char, d.isDigit = false → c ≠ d := by
    rintro d hd rfl
    exact Text.not_mem_toDigits hd n hc
  simp [staysOnLine, hne '\n' (by decide), hne '\r' (by decide)]

@[simp] theorem CacheId.isUnbroken_text (id : CacheId) : IsUnbroken id.text :=
  isUnbroken_repr _

@[simp] theorem LineState.isUnbroken_letter (state : LineState) :
    IsUnbroken state.letter.toString := by
  cases state <;> decide

@[simp] theorem Invariant.isUnbroken_testName (invariant : Invariant) :
    IsUnbroken invariant.testName := by
  cases invariant <;> decide

@[simp] theorem Verdict.isUnbroken_label (verdict : Verdict) : IsUnbroken verdict.label := by
  cases verdict with
  | pass => decide
  | fail violations => exact (by decide : IsUnbroken "FAIL")
  | skipped => decide

@[simp] theorem Address.isUnbroken_text (address : Address) : IsUnbroken address.text := by
  simp +decide [Address.text]

@[simp] theorem Violation.isUnbroken_text (violation : Violation) :
    IsUnbroken violation.text := by
  obtain ⟨invariant, cache, address, state, kind⟩ := violation
  cases kind <;>
    simp +decide only [text, isUnbroken_append, isUnbroken_repr, CacheId.isUnbroken_text,
      Address.isUnbroken_text, LineState.isUnbroken_letter, and_self]

/-! ## The blocks of the report -/

theorem CacheStatistics.isUnbroken_of_mem_lines
    {statistics : CacheStatistics} {line : String} (hline : line ∈ statistics.lines) :
    IsUnbroken line := by
  obtain ⟨id, lastUsed, modified, exclusive, shared, invalid, total⟩ := statistics
  revert line
  cases lastUsed <;> simp +decide [lines, LineState.all]

theorem Report.isUnbroken_of_mem_outcomeLines
    {report : Report} {outcome : Outcome} {line : String}
    (hline : line ∈ report.outcomeLines outcome) : IsUnbroken line := by
  rw [outcomeLines, List.mem_cons] at hline
  rcases hline with rfl | hbelow
  · simp +decide
  · split at hbelow
    next =>
      obtain ⟨violation, -, rfl⟩ := List.mem_map.mp hbelow
      simp +decide
    next => cases hbelow

theorem Report.isUnbroken_of_mem_testLines
    {report : Report} {id : CacheId} {line : String} (hline : line ∈ report.testLines id) :
    IsUnbroken line := by
  rcases List.mem_cons.mp hline with rfl | houtcome
  · simp +decide
  · obtain ⟨outcome, -, hmem⟩ := List.mem_flatMap.mp houtcome
    exact isUnbroken_of_mem_outcomeLines hmem

namespace Verification

theorem isUnbroken_resultLine (verification : Verification) :
    IsUnbroken verification.resultLine := by
  rw [resultLine]
  split
  · simp +decide
  · split <;> simp +decide

theorem isUnbroken_of_mem_plainLines
    {verification : Verification} {line : String} (hline : line ∈ verification.plainLines) :
    IsUnbroken line := by
  simp only [plainLines, List.mem_append, List.mem_cons, List.mem_flatMap, List.not_mem_nil,
    or_false, or_assoc] at hline
  rcases hline with rfl | ⟨statistics, -, hmem⟩ | rfl | ⟨id, -, hmem⟩ | rfl | rfl
  · decide
  · exact CacheStatistics.isUnbroken_of_mem_lines hmem
  · decide
  · exact Report.isUnbroken_of_mem_testLines hmem
  · decide
  · exact verification.isUnbroken_resultLine

/-- The report is read as the lines that it was written as. -/
theorem lines_plain (verification : Verification) :
    Text.lines verification.plain.toList = verification.plainLines.map String.toList :=
  Text.lines_unlines fun _ hline => (isUnbroken_of_mem_plainLines hline).isLine

/-- Reports with one text have the same lines. -/
theorem plain_eq_iff {verification other : Verification} :
    verification.plain = other.plain ↔ verification.plainLines = other.plainLines := by
  constructor
  · intro h
    have hlines : verification.plainLines.map String.toList =
        other.plainLines.map String.toList := by
      rw [← lines_plain, h, lines_plain]
    exact List.map_injective_iff.mpr (fun _ _ => String.toList_inj.mp) hlines
  · intro h
    rw [plain, plain, h]

end Verification

end CacheCoherence
