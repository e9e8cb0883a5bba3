import CacheCoherence.Text.Blank

/-!
# Flags of patterns

A pattern is a regular expression.  Flags change how a part of it is read: with
or without regard to case, as characters or as bytes, with or without white
space and comments between its parts.  Further flags are known which make no
difference to whether a text is a pattern.

There are no tables of cases and classes for all scripts.  A part that needs one
is refused, and so is a part that would match a byte which is no character by
itself.
-/

namespace CacheCoherence.Pattern

structure Flags where
  ignoreCase : Bool
  unicode : Bool
  ignoreSpace : Bool
  deriving DecidableEq, Repr

namespace Flags

def initial : Flags :=
  ⟨false, true, false⟩

def letters : List Char :=
  ['i', 'm', 's', 'U', 'u', 'R', 'x']

/-- The value of a flag after some have been turned on and others off. -/
def updated (on off : Text) (letter : Char) (value : Bool) : Bool :=
  if letter ∈ on then true
  else if letter ∈ off then false
  else value

/-- The flags after a change that is written as the letters that are turned on,
and behind a hyphen those that are turned off.  Each letter stands there once. -/
def change? (flags : Flags) (text : Text) : Option Flags :=
  let on := text.takeWhile (· != '-')
  let off := (text.dropWhile (· != '-')).drop 1
  if (on ++ off).all (letters.contains ·) ∧ (on ++ off).Nodup ∧ ('-' ∈ text → off ≠ []) then
    some
      { ignoreCase := updated on off 'i' flags.ignoreCase
        unicode := updated on off 'u' flags.unicode
        ignoreSpace := updated on off 'x' flags.ignoreSpace }
  else
    none

/-- Whether characters can be compared at all: there is no table of cases. -/
def canCompare (flags : Flags) : Bool :=
  !(flags.ignoreCase && flags.unicode)

example : initial.change? ['x', '-', 'u'] = some ⟨false, false, true⟩ := by decide

example : initial.change? ['s', '-'] = none := by decide

end Flags

end CacheCoherence.Pattern
