import CacheCoherence.Log
import CacheCoherence.Pattern.FieldValue
import CacheCoherence.Text.Bytes
import CacheCoherence.Text.Numeral
import CacheCoherence.Text.Search

/-!
# Log directives

A directive says for some entries of the log up to which level they are shown.
Which entries these are depends on the beginning of their target, and a
directive can be narrowed further to the entries with a certain field.  It can
also be narrowed to a span or to the value of a field; the log has no spans and
values are not compared, so such a directive is meant for no entry.

It is written as a level, which is then meant for all targets, or as a target
with the narrowing between brackets behind it and a level behind an equals sign.
Any of these parts may be left out, but not all.  Without a level everything is
shown.

The parts of a directive are found without the white space at its two ends, but
they are cut out of the text with this white space, at the same places.  White
space behind a directive hence belongs to its level or its name when it ends with
one.  White space in front moves all parts towards the front: no entry has the
names that are cut then, and what is cut for a level begins with an equals sign
or something in front of it, so that it is none.
-/

namespace CacheCoherence.CommandLine

open Log Text

/-- To which entries of its targets a directive is narrowed. -/
inductive Scope where
  | all
  | withField (name : String)
  | nothing
  deriving DecidableEq, Repr

/-- A directive: the beginning of the targets, the entries among these, and the
greatest rank of a level that is shown. -/
structure Directive where
  target : Text
  scope : Scope
  rank : Nat
  deriving DecidableEq, Repr

/-- The names of levels with the rank up to which entries are shown. -/
def levelNames : List (String × Nat) :=
  [("off", 0), ("error", 1), ("warn", 2), ("info", 3), ("debug", 4), ("trace", 5)]

/-- The rank of a level that is written as a number, or as a name in letters of
either case. -/
def rankOfName? (text : Text) : Option Nat :=
  match word64? text with
  | some number => if number ≤ 5 then some number.toNat else none
  | none => levelNames.lookup (String.ofList (text.map Char.toLower))

def beginsTarget (c : Char) : Bool :=
  isAlphanumeric c || c = '_' || c = ':' || c = '-'

namespace Directive

def isFor (directive : Directive) (entry : Entry) : Bool :=
  directive.target.isPrefixOf entry.target.toList &&
    match directive.scope with
    | .all => true
    | .withField name => entry.hasField name
    | .nothing => false

/-- The part of a text from the place on where `rest` begins when the white space at
the two ends is left out. -/
def cutFrom? (text rest : Text) : Option Text :=
  (cutAt? text (byteSize (trim text) - byteSize rest)).map Prod.snd

/-- The part of a text at the place of `part` with `rest` behind it when the white
space at the two ends is left out. -/
def cutPart? (text part rest : Text) : Option Text :=
  ((cutFrom? text (part ++ rest)).bind fun tail => cutAt? tail (byteSize part)).map Prod.fst

def rankOfLevel? (level : Text) : Option Nat :=
  if level = [] then some Level.trace.rank else rankOfName? level

/-- The rank that is written behind the brackets, where `rest` stands. -/
def rankBehind? (text rest : Text) : Option Nat :=
  match rest with
  | [] => some Level.trace.rank
  | '=' :: level => (cutFrom? text level).bind rankOfLevel?
  | _ => none

/-- The scope that a field between braces gives. -/
def scopeOfField? (field : Text) : Option Scope :=
  match cut? '=' field with
  | some (_, value) =>
    if Pattern.isFieldValue (value.takeWhile (· != '=')) then some .nothing else none
  | none => if field = [] then none else some (.withField (String.ofList field))

/-- The scope between brackets, which is what `inside` begins with, and the text
behind them. -/
def scope? (text inside : Text) : Option (Scope × Text) :=
  let span := inside.takeWhile fun c => c != ']' && c != '\x7b'
  match inside.dropWhile fun c => c != ']' && c != '\x7b' with
  | ']' :: rest => some (.nothing, rest)
  | '\x7b' :: body => do
    let (field, rest) ← cut? '\x7d' body
    let scope ← scopeOfField? (← cutPart? text field ('\x7d' :: rest))
    match rest with
    | ']' :: rest => return (if span = [] then scope else .nothing, rest)
    | _ => none
  | _ => none

/-- A directive with a scope, which is what `inside` begins with. -/
def ofScope? (text target inside : Text) : Option Directive := do
  let (scope, rest) ← scope? text inside
  let rank ← rankBehind? text rest
  return { target, scope, rank }

/-- A directive that is a level, or a target and nothing else. -/
def ofName (name : Text) : Directive :=
  match rankOfName? name with
  | some rank => ⟨[], .all, rank⟩
  | none => ⟨name, .all, Level.trace.rank⟩

/-- A directive that begins with a name, behind which `rest` stands. -/
def ofNameAnd? (text name rest : Text) : Option Directive :=
  match rest with
  | '[' :: inside => do
    let target ← cutPart? text name rest
    ofScope? text target inside
  | '=' :: level => do
    let target ← cutPart? text name rest
    let rank ← (cutFrom? text level).bind rankOfLevel?
    return { target, scope := .all, rank }
  | _ => some (ofName text)

def ofText? (text : Text) : Option Directive :=
  match trim text with
  | [] => none
  | '[' :: inside => ofScope? text [] inside
  | first :: rest =>
    if beginsTarget first then
      ofNameAnd? text (first :: rest.takeWhile fun c => c != '=' && c != '[')
        (rest.dropWhile fun c => c != '=' && c != '[')
    else
      none

end Directive

end CacheCoherence.CommandLine
