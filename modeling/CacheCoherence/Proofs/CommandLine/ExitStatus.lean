import CacheCoherence.CommandLine.Run
import CacheCoherence.Proofs.CommandLine.Arguments
import CacheCoherence.Proofs.Coherence.Law
import CacheCoherence.Proofs.Text.Lines

/-!
# What the exit of a run says

A run over a file that can be had ends in one of three ways: the text is rejected, its
snapshot is coherent, or it is not.  Which of them it is depends on the text alone.  The
mode decides which violations are reported but not whether there are any, and the format
and the log have no part in the status.  What is printed does depend on the format and the
mode, but on nothing that is said about the log.
-/

namespace CacheCoherence

/-! ## Passing -/

/-- No violations are found exactly when the coherence law holds, by every protocol and
in both modes. -/
theorem Snapshot.violations_check_eq_nil_iff
    {snapshot : Snapshot} {protocol : Protocol} {mode : Mode} :
    (snapshot.check protocol.rules mode).violations = [] ↔ snapshot.Coherent := by
  cases protocol
  have hexhaustive :
      (snapshot.check Protocol.mesi.rules .exhaustive).violations = [] ↔ snapshot.Coherent := by
    rw [List.eq_nil_iff_forall_not_mem, coherent_iff_forall_not_violates]
    exact forall_congr' fun violation => not_congr mem_violations_check_mesi
  cases mode with
  | exhaustive => exact hexhaustive
  | failFast =>
      rw [violations_check_failFast, ← hexhaustive, List.take_eq_nil_iff]
      exact or_iff_right Nat.one_ne_zero

theorem Verification.passed_ofSnapshot_iff
    {source : String} {protocol : Protocol} {mode : Mode} {snapshot : Snapshot} :
    (ofSnapshot source protocol mode snapshot).passed = true ↔ snapshot.Coherent := by
  rw [passed, Report.isClean_iff]
  exact Snapshot.violations_check_eq_nil_iff

theorem verify_of_rejected
    {source text : String} {protocol : Protocol} {mode : Mode} {error : Dump.ReadError}
    (hread : Dump.read text = .error error) : verify source text protocol mode = .error error := by
  rw [verify, hread]
  rfl

theorem verify_of_read
    {source text : String} {protocol : Protocol} {mode : Mode} {snapshot : Snapshot}
    (hread : Dump.read text = .ok snapshot) :
    verify source text protocol mode = .ok (.ofSnapshot source protocol mode snapshot) := by
  rw [verify, hread]
  rfl

theorem verifyFile_of_readFile
    {readFile : String → Except FileError String} {path text : String} {protocol : Protocol}
    {mode : Mode} (hfile : readFile path = .ok text) :
    verifyFile readFile path protocol mode =
      (verify path text protocol mode).mapError .malformed := by
  rw [verifyFile, hfile]

namespace CommandLine

theorem exitStatus_ofSnapshot
    {source : String} {protocol : Protocol} {mode : Mode} {snapshot : Snapshot}
    [Decidable snapshot.Coherent] :
    exitStatus (.ofSnapshot source protocol mode snapshot) =
      if snapshot.Coherent then 0 else 1 :=
  if_congr Verification.passed_ofSnapshot_iff rfl rfl

/-! ## Runs over a file that can be had -/

section Run

variable {options : Options} {directives? : Option String}
  {readFile : String → Except FileError String} {text : String}

theorem run_of_parse {arguments : List String} (hparse : parse arguments = .ok options) :
    run arguments directives? readFile = options.run directives? readFile := by
  rw [run, hparse]

theorem Options.run_of_rejected
    (hfile : readFile options.dump = .ok text)
    {error : Dump.ReadError} (hread : Dump.read text = .error error) :
    options.run directives? readFile = .exit
      { status := 2
        stdout := ""
        stderr := options.logLines directives? readFile ++ ["Error: " ++ error.message] } := by
  rw [Options.run, verifyFile_of_readFile hfile, verify_of_rejected hread]
  rfl

theorem Options.run_of_read
    (hbrowse : options.browse = false) (hfile : readFile options.dump = .ok text)
    {snapshot : Snapshot} (hread : Dump.read text = .ok snapshot) :
    let verification := Verification.ofSnapshot options.dump options.protocol options.mode snapshot
    options.run directives? readFile = .exit
      { status := exitStatus verification
        stdout := options.format.report verification
        stderr := options.logLines directives? readFile } := by
  rw [Options.run, verifyFile_of_readFile hfile, verify_of_read hread, hbrowse]
  rfl

end Run

/-- What an exit says about the dump, and what it prints. -/
structure Exit.Tells (exit : Exit) (options : Options) (text : String) : Prop where
  rejected_iff : exit.status = 2 ∧ exit.stdout = "" ↔ ∃ error, Dump.read text = .error error
  coherent_iff : exit.status = 0 ↔ ∃ snapshot, Dump.read text = .ok snapshot ∧ snapshot.Coherent
  broken_iff : exit.status = 1 ↔ ∃ snapshot, Dump.read text = .ok snapshot ∧ ¬snapshot.Coherent
  report : exit.status = 0 ∨ exit.status = 1 →
    ∃ verification,
      verify options.dump text options.protocol options.mode = .ok verification ∧
        exit.stdout =
          match options.format with
          | .text => verification.plain
          | .json => verification.jsonText ++ "\n"

theorem Exit.tells_of_rejected
    {exit : Exit} {options : Options} {text : String} {error : Dump.ReadError}
    (hread : Dump.read text = .error error) (hstatus : exit.status = 2)
    (hstdout : exit.stdout = "") : exit.Tells options text where
  rejected_iff := iff_of_true ⟨hstatus, hstdout⟩ ⟨error, hread⟩
  coherent_iff := by simp [hstatus, hread]
  broken_iff := by simp [hstatus, hread]
  report := by simp [hstatus]

theorem Exit.tells_of_read
    {exit : Exit} {options : Options} {text : String} {snapshot : Snapshot}
    (hread : Dump.read text = .ok snapshot) :
    let verification := Verification.ofSnapshot options.dump options.protocol options.mode snapshot
    exit.status = exitStatus verification → exit.stdout = options.format.report verification →
      exit.Tells options text := by
  classical
  intro verification hstatus hstdout
  have hreport : ∃ verification,
      verify options.dump text options.protocol options.mode = .ok verification ∧
        exit.stdout = options.format.report verification :=
    ⟨verification, verify_of_read hread, hstdout⟩
  rw [exitStatus_ofSnapshot] at hstatus
  have hzero : exit.status = 0 ↔ snapshot.Coherent := by
    rw [hstatus, ite_eq_left_iff]
    simp
  have hone : exit.status = 1 ↔ ¬snapshot.Coherent := by
    rw [hstatus, ite_eq_right_iff]
    simp
  have htwo : exit.status ≠ 2 := by
    rw [hstatus]
    split <;> decide
  exact
    { rejected_iff := by simp [hread, htwo]
      coherent_iff := by simp [hread, hzero]
      broken_iff := by simp [hread, hone]
      report := fun _ => hreport }

/-- A file that can be had leads to one status, whatever is asked for, and to a report
that depends on the format, the protocol and the mode alone.  The status says whether the
text is rejected, coherent or neither. -/
theorem run_exits_by_coherence
    {readFile : String → Except FileError String} {dump text : String}
    (hdump : dump ≠ "") (hfile : readFile dump = .ok text) :
    ∃ (status : Nat) (stdout : Format → Protocol → Mode → String),
      ∀ options : Options, options.dump = dump → options.browse = false →
        parse options.arguments = .ok options ∧
          ∀ (arguments : List String) (directives? : Option String),
            parse arguments = .ok options →
              ∃ exit, run arguments directives? readFile = .exit exit ∧
                exit.status = status ∧
                exit.stdout = stdout options.format options.protocol options.mode ∧
                exit.Tells options text := by
  classical
  cases hread : Dump.read text with
  | error error =>
      refine ⟨2, fun _ _ _ => "", fun options hname hbrowse => ⟨?_, ?_⟩⟩
      · exact parse_arguments (hname ▸ hdump)
      · intro arguments directives? hparse
        rw [run_of_parse hparse, Options.run_of_rejected (hname ▸ hfile) hread]
        exact ⟨_, rfl, rfl, rfl, Exit.tells_of_rejected hread rfl rfl⟩
  | ok snapshot =>
      refine ⟨exitStatus (.ofSnapshot dump .mesi .exhaustive snapshot),
        fun format protocol mode => format.report (.ofSnapshot dump protocol mode snapshot),
        fun options hname hbrowse => ⟨?_, ?_⟩⟩
      · exact parse_arguments (hname ▸ hdump)
      · intro arguments directives? hparse
        rw [run_of_parse hparse, Options.run_of_read hbrowse (hname ▸ hfile) hread]
        refine ⟨_, rfl, ?_, by rw [hname], Exit.tells_of_read hread rfl rfl⟩
        rw [exitStatus_ofSnapshot, exitStatus_ofSnapshot]

set_option maxRecDepth 2000 in
/-- A cache that lists a modified line twice breaks the law, whatever the flags of the
command line are. -/
theorem run_exits_by_coherence_twice_listed :
    let readFile : String → Except FileError String := fun _ => .ok <| Text.unlines
      ["CACHE CONTENT", "Cache 0:",
        "CacheLine\x7bset_index:2,tag:5,last_used:1,status:M\x7d",
        "CacheLine\x7bset_index:2,tag:5,last_used:4,status:M\x7d"]
    ∃ brief full,
      run ["--format", "json", "--fail-fast", "-vv", "dump.out"] none readFile = .exit brief ∧
        run ["dump.out"] none readFile = .exit full ∧
        brief.status = 1 ∧ full.status = 1 := by
  intro readFile
  let cache : Cache := ⟨⟨0⟩, [⟨2, 5, 1, .modified⟩, ⟨2, 5, 4, .modified⟩]⟩
  have hfile : readFile "dump.out" = .ok (Text.unlines _) := rfl
  obtain ⟨status, stdout, hruns⟩ := run_exits_by_coherence (by decide) hfile
  obtain ⟨brief, hbrief, hbriefStatus, -, htells⟩ :=
    (hruns ⟨"dump.out", .json, .failFast, .mesi, false, 2⟩ rfl rfl).2
      ["--format", "json", "--fail-fast", "-vv", "dump.out"] none rfl
  obtain ⟨full, hfull, hfullStatus, -, -⟩ :=
    (hruns ⟨"dump.out", .text, .exhaustive, .mesi, false, 0⟩ rfl rfl).2 ["dump.out"] none rfl
  have hone : brief.status = 1 := by
    rw [htells.broken_iff, Dump.read, Text.lines_unlines (by decide)]
    refine ⟨.ofCaches [cache], rfl, fun hcoherent => ?_⟩
    have honce := (hcoherent ⟨5, 2⟩).listed_once cache (by decide) .modified rfl
    exact absurd honce (by decide)
  exact ⟨brief, full, hbrief, hfull, hone, by rw [hfullStatus, ← hbriefStatus, hone]⟩

end CommandLine

end CacheCoherence
