import CacheCoherence.Coherence.Report
import CacheCoherence.Text.Search

/-!
# Command line options

The arguments are taken from left to right.  The first one that is out of order
makes the whole line unusable, and a question for help or for the version is
answered as soon as it is met, whatever comes behind it.

Options may stand anywhere in front of a `--`, behind which every argument names
a dump.  Exactly one dump has to be named.  An option with a value takes it from
behind an equals sign or from the next argument, unless that looks like an
option itself.  Only the option for more log output may be repeated.
-/

namespace CacheCoherence.CommandLine

inductive Format where
  | text
  | json
  deriving DecidableEq, Repr

structure Options where
  dump : String
  format : Format
  mode : Mode
  protocol : Protocol
  browse : Bool
  verbosity : Nat
  deriving DecidableEq, Repr

/-- An option without a value. -/
inductive Switch where
  | failFast
  | browse
  | verbose
  | help
  | version
  deriving DecidableEq, Repr

/-- An option with a value. -/
inductive Setting where
  | format
  | protocol
  deriving DecidableEq, Repr

def Switch.ofName? (name : String) : Option Switch :=
  if name = "fail-fast" then some failFast
  else if name = "tui" then some browse
  else if name = "verbose" then some verbose
  else if name = "help" then some help
  else if name = "version" then some version
  else none

def Switch.ofLetter? (letter : Char) : Option Switch :=
  if letter = 'v' then some verbose
  else if letter = 'h' then some help
  else if letter = 'V' then some version
  else none

def Setting.ofName? (name : String) : Option Setting :=
  if name = "format" then some format
  else if name = "protocol" then some protocol
  else none

def Format.ofName? (name : String) : Option Format :=
  if name = "text" then some text
  else if name = "json" then some json
  else none

def protocolOfName? (name : String) : Option Protocol :=
  if name = "mesi" then some .mesi else none

/-- What a single argument looks like. -/
inductive Argument where
  | endOfOptions
  | long (name : String) (value? : Option String)
  | letters (letters : List Char)
  | plain (text : String)
  deriving DecidableEq, Repr

/-- The look of an argument.  A single hyphen is plain text. -/
def Argument.of (argument : String) : Argument :=
  match argument.toList with
  | ['-', '-'] => endOfOptions
  | '-' :: '-' :: body =>
    match Text.cut? '=' body with
    | some (name, value) => long (String.ofList name) (some (String.ofList value))
    | none => long (String.ofList body) none
  | '-' :: letter :: more => letters (letter :: more)
  | _ => plain argument

/-- Why arguments do not lead to a run. -/
inductive Stop where
  | help
  | version
  | misuse
  deriving DecidableEq, Repr

/-- What has been said so far: the options met, a setting that waits for its value,
and whether options may still come. -/
structure Draft where
  dump? : Option String
  format? : Option Format
  protocol? : Option Protocol
  failFast : Bool
  browse : Bool
  verbosity : Nat
  waiting? : Option Setting
  optionsEnded : Bool
  deriving DecidableEq, Repr

namespace Draft

def blank : Draft where
  dump? := none
  format? := none
  protocol? := none
  failFast := false
  browse := false
  verbosity := 0
  waiting? := none
  optionsEnded := false

/-- Names the dump, which has to be the only one and not empty. -/
def nameDump (draft : Draft) (path : String) : Except Stop Draft :=
  if path = "" ∨ draft.dump?.isSome then .error .misuse
  else .ok { draft with dump? := some path }

def turnOn (draft : Draft) : Switch → Except Stop Draft
  | .failFast =>
    if draft.failFast then .error .misuse else .ok { draft with failFast := true }
  | .browse =>
    if draft.browse then .error .misuse else .ok { draft with browse := true }
  | .verbose => .ok { draft with verbosity := draft.verbosity + 1 }
  | .help => .error .help
  | .version => .error .version

def assign (draft : Draft) (setting : Setting) (value : String) : Except Stop Draft :=
  match setting with
  | .format =>
    match draft.format?, Format.ofName? value with
    | none, some format => .ok { draft with format? := some format }
    | _, _ => .error .misuse
  | .protocol =>
    match draft.protocol?, protocolOfName? value with
    | none, some protocol => .ok { draft with protocol? := some protocol }
    | _, _ => .error .misuse

/-- Takes a long option, with the value that was attached to it. -/
def takeLong (draft : Draft) (name : String) (value? : Option String) : Except Stop Draft :=
  match Setting.ofName? name, value? with
  | some setting, some value => draft.assign setting value
  | some setting, none => .ok { draft with waiting? := some setting }
  | none, some _ => .error .misuse
  | none, none =>
    match Switch.ofName? name with
    | some switch => draft.turnOn switch
    | none => .error .misuse

def takeLetter (draft : Draft) (letter : Char) : Except Stop Draft :=
  match Switch.ofLetter? letter with
  | some switch => draft.turnOn switch
  | none => .error .misuse

/-- Takes an argument that is not awaited as a value. -/
def takeFree (draft : Draft) : Argument → Except Stop Draft
  | .endOfOptions => .ok { draft with optionsEnded := true }
  | .long name value? => draft.takeLong name value?
  | .letters letters => letters.foldlM takeLetter draft
  | .plain text => draft.nameDump text

def take (draft : Draft) (argument : String) : Except Stop Draft :=
  if draft.optionsEnded then
    draft.nameDump argument
  else
    match draft.waiting?, Argument.of argument with
    | none, look => draft.takeFree look
    | some setting, .plain value => { draft with waiting? := none }.assign setting value
    | some _, _ => .error .misuse

/-- The options that have been said, if nothing is left open. -/
def options? (draft : Draft) : Option Options :=
  match draft.waiting?, draft.dump? with
  | none, some dump =>
    some
      { dump
        format := draft.format?.getD .text
        mode := if draft.failFast then .failFast else .exhaustive
        protocol := draft.protocol?.getD .mesi
        browse := draft.browse
        verbosity := draft.verbosity }
  | _, _ => none

end Draft

def parse (arguments : List String) : Except Stop Options :=
  match arguments.foldlM Draft.take Draft.blank with
  | .error stop => .error stop
  | .ok draft =>
    match draft.options? with
    | some options => .ok options
    | none => .error .misuse

end CacheCoherence.CommandLine
