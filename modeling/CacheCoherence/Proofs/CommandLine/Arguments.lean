import CacheCoherence.CommandLine.Options

/-!
# Arguments that ask for options

Whatever options are wanted, there are arguments that ask for them: `Options.arguments`
names every setting, repeats the option for more log output as often as it is wanted, and
names the dump last, behind a `--`.  The arguments are taken one by one, and what each
of them adds to a draft is seen without knowing what was said before.
-/

namespace CacheCoherence.CommandLine

/-- The value of the option for the format. -/
def Format.keyword : Format → String
  | text => "text"
  | json => "json"

/-- The value of the option for the protocol. -/
def protocolKeyword : Protocol → String
  | .mesi => "mesi"

/-- The arguments for the settings, those that have a value. -/
def Options.settings (options : Options) : List String :=
  ["--format", options.format.keyword, "--protocol", protocolKeyword options.protocol]

/-- The arguments for the switches that are turned on. -/
def Options.switches (options : Options) : List String :=
  (if options.mode = .failFast then ["--fail-fast"] else []) ++
    (if options.browse then ["--tui"] else [])

/-- Arguments that ask for these options. -/
def Options.arguments (options : Options) : List String :=
  options.settings ++ options.switches ++ List.replicate options.verbosity "-v" ++
    ["--", options.dump]

namespace Draft

/-- What a draft becomes when arguments are taken that come one after the other. -/
theorem foldlM_take_append
    {draft middle final : Draft} {front back : List String}
    (hfront : front.foldlM take draft = .ok middle) (hback : back.foldlM take middle = .ok final) :
    (front ++ back).foldlM take draft = .ok final := by
  rw [List.foldlM_append, hfront]
  exact hback

theorem foldlM_take_settings (options : Options) :
    options.settings.foldlM take blank =
      .ok { blank with format? := some options.format, protocol? := some options.protocol } := by
  obtain ⟨dump, format, mode, protocol, browse, verbosity⟩ := options
  cases protocol
  cases format with
  | text =>
      rw [Options.settings, Format.keyword, protocolKeyword]
      rfl
  | json =>
      rw [Options.settings, Format.keyword, protocolKeyword]
      rfl

theorem foldlM_take_switches (options : Options) (format? : Option Format)
    (protocol? : Option Protocol) :
    options.switches.foldlM take { blank with format?, protocol? } =
      .ok { blank with
        format?, protocol?, failFast := options.mode = .failFast, browse := options.browse } := by
  obtain ⟨dump, format, mode, protocol, browse, verbosity⟩ := options
  cases mode with
  | exhaustive => cases browse <;> rfl
  | failFast => cases browse <;> rfl

theorem take_of_free
    {draft : Draft} (hfree : draft.waiting? = none) (hoptions : draft.optionsEnded = false)
    (argument : String) : draft.take argument = draft.takeFree (Argument.of argument) := by
  have hgoOn : ¬draft.optionsEnded = true := by
    rw [hoptions]
    exact Bool.false_ne_true
  rw [take, if_neg hgoOn, hfree]

/-- The option for more log output adds up. -/
theorem foldlM_take_verbose
    {draft : Draft} (hfree : draft.waiting? = none) (hoptions : draft.optionsEnded = false)
    (count : Nat) :
    (List.replicate count "-v").foldlM take draft =
      .ok { draft with verbosity := draft.verbosity + count } := by
  induction count generalizing draft with
  | zero => rfl
  | succ count ih =>
      have hlook : Argument.of "-v" = .letters ['v'] := by decide
      have htake : draft.take "-v" = .ok { draft with verbosity := draft.verbosity + 1 } := by
        rw [take_of_free hfree hoptions, hlook]
        rfl
      rw [List.replicate_succ, List.foldlM_cons, htake, Nat.add_comm count 1, ← Nat.add_assoc]
      exact ih hfree hoptions

/-- Behind a `--` the dump is named, whatever it looks like. -/
theorem foldlM_take_dump
    {draft : Draft} (hfree : draft.waiting? = none) (hoptions : draft.optionsEnded = false)
    (hunnamed : draft.dump? = none) {dump : String} (hdump : dump ≠ "") :
    ["--", dump].foldlM take draft =
      .ok { draft with dump? := some dump, optionsEnded := true } := by
  have hlook : Argument.of "--" = .endOfOptions := by decide
  have hend : draft.take "--" = .ok { draft with optionsEnded := true } := by
    rw [take_of_free hfree hoptions, hlook, takeFree]
  have hname : { draft with optionsEnded := true }.take dump =
      .ok { draft with dump? := some dump, optionsEnded := true } := by
    rw [take, if_pos rfl, nameDump, hunnamed, if_neg (by simpa using hdump)]
  have hlast : [dump].foldlM take { draft with optionsEnded := true } =
      .ok { draft with dump? := some dump, optionsEnded := true } := by
    rw [List.foldlM_cons, hname]
    rfl
  rw [List.foldlM_cons, hend]
  exact hlast

end Draft

/-- All options can be asked for, provided that the dump has a name. -/
theorem parse_arguments {options : Options} (hdump : options.dump ≠ "") :
    parse options.arguments = .ok options := by
  have hsettings := Draft.foldlM_take_settings options
  have hswitches := Draft.foldlM_take_switches options (some options.format)
    (some options.protocol)
  have hflags := Draft.foldlM_take_append hsettings hswitches
  have hverbose := Draft.foldlM_take_append hflags
    (Draft.foldlM_take_verbose rfl rfl options.verbosity)
  have hall := Draft.foldlM_take_append hverbose
    (Draft.foldlM_take_dump rfl rfl rfl hdump)
  rw [parse, Options.arguments, hall]
  obtain ⟨dump, format, mode, protocol, browse, verbosity⟩ := options
  cases mode <;> simp [Draft.options?, Draft.blank]

end CacheCoherence.CommandLine
