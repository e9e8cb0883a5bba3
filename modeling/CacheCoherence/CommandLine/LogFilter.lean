import CacheCoherence.CommandLine.Directive

/-!
# Log filters

A filter is a list of directives.  For an entry the most specific one counts
among those that are meant for it; an entry that none is meant for is not shown.

A directive is more specific than another when it gives a longer beginning of
targets or, with beginnings of one length, when it asks for a field and the
other does not.  Between two fields the names decide, and of two directives that
agree in all this the later one counts.

A filter is written as directives between commas, where empty ones are left out.
-/

namespace CacheCoherence.CommandLine

open Log

/-- The name of the field that a directive asks for; one that asks for none comes
before all others. -/
def Directive.fieldName (directive : Directive) : Text :=
  match directive.scope with
  | .withField name => name.toList
  | _ => []

/-- Whether a directive is more specific than another one. -/
def Directive.outranks (directive other : Directive) : Bool :=
  if directive.target.length = other.target.length then
    List.lex other.fieldName directive.fieldName fun c d => c.toNat < d.toNat
  else
    other.target.length < directive.target.length

structure LogFilter where
  directives : List Directive
  deriving DecidableEq, Repr

namespace LogFilter

/-- The filter that shows the entries of all targets up to a level. -/
def upTo (level : Level) : LogFilter :=
  ⟨[⟨[], .all, level.rank⟩]⟩

def ofText? (text : Text) : Option LogFilter :=
  (((text.splitOn ',').filter (· ≠ [])).mapM Directive.ofText?).map LogFilter.mk

def ofVerbosity (verbosity : Nat) : LogFilter :=
  match verbosity with
  | 0 => upTo .warn
  | 1 => upTo .info
  | 2 => upTo .debug
  | _ => upTo .trace

def directive? (filter : LogFilter) (entry : Entry) : Option Directive :=
  (filter.directives.filter fun directive => directive.isFor entry).foldl
    (fun best? directive =>
      match best? with
      | none => some directive
      | some best => if best.outranks directive then some best else some directive)
    none

def shows (filter : LogFilter) (entry : Entry) : Bool :=
  match filter.directive? entry with
  | some directive => entry.level.rank ≤ directive.rank
  | none => false

end LogFilter

end CacheCoherence.CommandLine
