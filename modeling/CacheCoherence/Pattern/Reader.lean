import CacheCoherence.Pattern.Flags

/-!
# Readers of patterns

A reader takes characters from the front of a text, under flags that it may
change, and fails when the text is no pattern.
-/

namespace CacheCoherence.Pattern

/-- The text that a reader has before it, the flags in force, and the names of the
groups behind it. -/
structure State where
  rest : Text
  flags : Flags
  names : List Text
  deriving DecidableEq, Repr

abbrev Reader := StateT State Option

/-- The text without the white space and the comments at its start.  A comment
begins with a number sign and ends with its line. -/
def skipped (inComment : Bool) : Text → Text
  | [] => []
  | c :: rest =>
    if inComment then skipped (c ≠ '\n') rest
    else if Text.isBlank c then skipped false rest
    else if c = '#' then skipped true rest
    else c :: rest

/-- The first character of a text that is neither white space nor the beginning of
a comment.  This does not pass over the text of a comment. -/
def firstSolid? (inComment : Bool) : Text → Option Char
  | [] => none
  | c :: rest =>
    if Text.isBlank c then firstSolid? inComment rest
    else if c = '#' ∧ inComment = false then firstSolid? true rest
    else some c

namespace Reader

def rest : Reader Text := do
  return (← get).rest

def flags : Reader Flags := do
  return (← get).flags

def moveTo (rest : Text) : Reader Unit :=
  modify fun state => { state with rest }

def next : Reader Char := do
  match ← rest with
  | [] => failure
  | c :: rest => do
    moveTo rest
    return c

/-- Passes over what the flags leave out. -/
def skip : Reader Unit :=
  modify fun state =>
    if state.flags.ignoreSpace then { state with rest := skipped false state.rest } else state

end Reader

end CacheCoherence.Pattern
