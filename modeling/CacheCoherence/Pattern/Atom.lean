import CacheCoherence.Pattern.Reader

/-!
# Atoms of patterns

The smallest parts of a pattern: a character that stands for itself, and what is
written behind a backslash.
-/

namespace CacheCoherence.Pattern

inductive Atom where
  | literal (c : Char)
  | byte (c : Char)
  | shorthand (negated : Bool)
  | edge
  | wordEdge
  deriving DecidableEq, Repr

namespace Atom

/-- The character that stands behind a backslash as this letter. -/
def controlOfLetter? (letter : Char) : Option Char :=
  if letter = 'a' then some '\x07'
  else if letter = 'f' then some '\x0c'
  else if letter = 't' then some '\t'
  else if letter = 'n' then some '\n'
  else if letter = 'r' then some '\r'
  else if letter = 'v' then some '\x0b'
  else none

def hexDigit? (c : Char) : Option Nat :=
  if c.isDigit then some (c.toNat - '0'.toNat)
  else if 'a' ≤ c.toLower ∧ c.toLower ≤ 'f' then some (c.toLower.toNat - 'a'.toNat + 10)
  else none

/-- Takes the hexadecimal digits of a character code. -/
def readCode : (digits value : Nat) → Reader Nat
  | 0, value => do
    Reader.skip
    return value
  | digits + 1, value => do
    Reader.skip
    match hexDigit? (← Reader.next) with
    | some digit => readCode digits (16 * value + digit)
    | none => failure

/-- Takes a character code with so many digits. -/
def readCharacter (digits : Nat) : Reader Char := do
  let value ← readCode digits 0
  if value.isValidChar then return Char.ofNat value else failure

/-- Whether a character stands for itself behind a backslash. -/
def isMark (c : Char) : Bool :=
  c.toNat < 0x80 && !c.isAlphanum && c != '<' && c != '>'

/-- Takes what stands behind a backslash.  Properties of characters are refused. -/
def readEscaped : Reader Atom := do
  let c ← Reader.next
  match controlOfLetter? c with
  | some control => return .literal control
  | none =>
    if c = 'x' then return .byte (← readCharacter 2)
    else if c = 'u' then return .literal (← readCharacter 4)
    else if c = 'U' then return .literal (← readCharacter 8)
    else if c ∈ ['d', 's', 'w'] then return .shorthand false
    else if c ∈ ['D', 'S', 'W'] then return .shorthand true
    else if c ∈ ['A', 'z'] then return .edge
    else if c ∈ ['b', 'B', '<', '>'] then return .wordEdge
    else if isMark c then return .literal c
    else failure

def read : Reader Atom := do
  let c ← Reader.next
  if c = '\\' then readEscaped else return .literal c

/-- The character that an atom stands for. -/
def character? : Atom → Option Char
  | literal c => some c
  | byte c => some c
  | _ => none

/-- Whether an atom may stand outside classes. -/
def isAllowed (atom : Atom) (flags : Flags) : Bool :=
  match atom with
  | literal _ => flags.canCompare
  | byte c => flags.canCompare && (flags.unicode || c.toNat < 0x80)
  | shorthand negated => !flags.unicode && !negated
  | edge => true
  | wordEdge => !flags.unicode

/-- Whether an atom may stand in a class. -/
def isMember (atom : Atom) (flags : Flags) : Bool :=
  match atom with
  | literal c => flags.canCompare && (flags.unicode || c.toNat < 0x80)
  | byte c => flags.canCompare && (flags.unicode || c.toNat < 0x80)
  | shorthand negated => !flags.unicode && !negated
  | edge => false
  | wordEdge => false

end Atom

end CacheCoherence.Pattern
