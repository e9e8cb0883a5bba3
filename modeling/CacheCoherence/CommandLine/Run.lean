import CacheCoherence.CommandLine.LogFilter
import CacheCoherence.CommandLine.Options
import CacheCoherence.Report.Data
import CacheCoherence.Report.Plain

/-!
# Running the command

A run verifies one dump and ends with an exit status: zero when nothing was
found, one when there are violations, two when the dump could not be verified or
the command line could not be used.  The report goes to the standard output; the
log and a final error line go to the standard error output.
-/

namespace CacheCoherence.CommandLine

def helpText : String :=
  Text.unlines
    ["Coherence-invariant checker for multiprocessor cache snapshot dumps",
      "",
      "Usage: cohcheck [OPTIONS] <DUMP>",
      "",
      "Arguments:",
      "  <DUMP>  Simulator output containing the CACHE CONTENT section",
      "",
      "Options:",
      "      --format <FORMAT>      Report format written to stdout " ++
        "[default: text] [possible values: text, json]",
      "      --fail-fast            Stop at the first violation instead of reporting all of them",
      "      --protocol <PROTOCOL>  Protocol whose invariant table is applied " ++
        "[default: mesi] [possible values: mesi]",
      "      --tui                  Browse the result in an interactive terminal viewer",
      "  -v, --verbose...           Raise log verbosity " ++
        "(-v info, -vv debug, -vvv trace); RUST_LOG overrides",
      "  -h, --help                 Print help",
      "  -V, --version              Print version"]

def versionText : String :=
  "cohcheck 0.1.0\n"

/-- The line that is written when the command line cannot be used. -/
def usageLine : String :=
  "Usage: cohcheck [OPTIONS] <DUMP>"

def modeName : Mode → String
  | .exhaustive => "Exhaustive"
  | .failFast => "FailFast"

def protocolName : Protocol → String
  | .mesi => "Mesi"

def Format.name : Format → String
  | text => "Text"
  | json => "Json"

/-- The log entry at the start of a run. -/
def Options.startEntry (options : Options) : Log.Entry where
  level := .debug
  target := "cohcheck"
  message := "starting verification"
  fields :=
    [("config",
        "VerifyConfig \x7b mode: " ++ modeName options.mode ++
          ", protocol: " ++ protocolName options.protocol ++
          ", format: " ++ options.format.name ++ " \x7d"),
      ("dump", options.dump)]

/-- The filter that holds for a run: the one that the environment asks for, and the
one that the options ask for when the environment says nothing usable. -/
def Options.logFilter (options : Options) (directives? : Option String) : LogFilter :=
  match directives?.bind fun text => LogFilter.ofText? text.toList with
  | some filter => filter
  | none => LogFilter.ofVerbosity options.verbosity

/-- The report in the form that was asked for, as it is printed. -/
def Format.report (format : Format) (verification : Verification) : String :=
  match format with
  | text => verification.plain
  | json => verification.jsonText ++ "\n"

structure Exit where
  status : Nat
  stdout : String
  stderr : List String
  deriving DecidableEq, Repr

/-- The status of a run that verified a dump. -/
def exitStatus (verification : Verification) : Nat :=
  if verification.passed then 0 else 1

/-- How a run goes on after its work: it ends, or the viewer opens. -/
inductive Ending where
  | exit (exit : Exit)
  | browse (verification : Verification) (stderr : List String)

/-- The lines of the log that a run shows. -/
def Options.logLines (options : Options) (directives? : Option String)
    (readFile : String → Except FileError String) : List String :=
  let entries :=
    options.startEntry ::
      verifyFileEntries readFile options.dump options.protocol options.mode
  (entries.filter (options.logFilter directives?).shows).map Log.Entry.line

def Options.run (options : Options) (directives? : Option String)
    (readFile : String → Except FileError String) : Ending :=
  let log := options.logLines directives? readFile
  match verifyFile readFile options.dump options.protocol options.mode with
  | .error error =>
    .exit { status := 2, stdout := "", stderr := log ++ ["Error: " ++ error.fullMessage] }
  | .ok verification =>
    if options.browse then
      .browse verification log
    else
      .exit
        { status := exitStatus verification
          stdout := options.format.report verification
          stderr := log }

def run (arguments : List String) (directives? : Option String)
    (readFile : String → Except FileError String) : Ending :=
  match parse arguments with
  | .ok options => options.run directives? readFile
  | .error .help => .exit { status := 0, stdout := helpText, stderr := [] }
  | .error .version => .exit { status := 0, stdout := versionText, stderr := [] }
  | .error .misuse => .exit { status := 2, stdout := "", stderr := [usageLine] }

end CacheCoherence.CommandLine
