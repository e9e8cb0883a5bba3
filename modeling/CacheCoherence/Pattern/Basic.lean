import CacheCoherence.Pattern.Bracket
import CacheCoherence.Text.Alphanumeric

/-!
# Well-formed patterns

A pattern is a choice between sequences of atoms, classes, groups and
repetitions.  `isPattern` says whether a text is one; nothing is matched here.
Groups, repetitions, classes, sequences and choices may be nested in each other
to a depth of 250.

A repetition applies to the part in front of it, and there has to be one.  A
count between braces is refused.  Flags hold up to the end of the group in which
they are set, and a group can be opened with flags of its own.
-/

namespace CacheCoherence.Pattern

def maxDepth : Nat := 250

/-- A sequence that has been read: its parts, and the depth of the last one if that
can be repeated. -/
structure Sequence where
  parts : Parts
  last? : Option Nat
  deriving DecidableEq, Repr

namespace Sequence

def empty : Sequence :=
  ⟨Parts.none, none⟩

/-- The sequence with a further part of this depth. -/
def add (sequence : Sequence) (depth : Nat) : Sequence :=
  ⟨sequence.parts.add depth, some depth⟩

/-- The sequence with a setting of flags, which cannot be repeated. -/
def addFlags (sequence : Sequence) : Sequence :=
  ⟨sequence.parts.add 0, none⟩

def repeated? (sequence : Sequence) : Option Sequence :=
  sequence.last?.map fun depth =>
    ⟨⟨sequence.parts.count, max sequence.parts.deepest (depth + 1)⟩, some (depth + 1)⟩

/-- The depth of a choice between the earlier sequences and this one. -/
def choiceDepth (sequence : Sequence) (earlier? : Option Nat) : Nat :=
  match earlier? with
  | some earlier => max earlier sequence.parts.depth + 1
  | none => sequence.parts.depth

end Sequence

def isName (text : Text) : Bool :=
  match text with
  | [] => false
  | first :: rest =>
    (first = '_' || Text.isLetter first) &&
      rest.all fun c => c = '_' || c = '.' || c = '[' || c = ']' || Text.isAlphanumeric c

/-- Takes the name of a group with its closing mark.  No two groups have one
name. -/
def readName : Reader Unit := do
  let state ← get
  let name := state.rest.takeWhile (· != '>')
  match state.rest.dropWhile (· != '>') with
  | _ :: rest =>
    guard (isName name && !state.names.contains name)
    set { state with rest, names := name :: state.names }
  | [] => failure

/-- Takes the opening of a group behind its parenthesis, and says whether it opens
a group; otherwise it was a setting of flags, with its closing parenthesis. -/
def readGroup : Reader Bool := do
  Reader.skip
  let state ← get
  match state.rest with
  | '?' :: 'P' :: '<' :: rest
  | '?' :: '<' :: rest => do
    Reader.moveTo rest
    readName
    return true
  | '?' :: rest =>
    let letters := rest.takeWhile fun c => c != ':' && c != ')'
    match state.flags.change? letters, rest.drop letters.length with
    | some flags, ':' :: rest => do
      set { state with rest, flags }
      return true
    | some flags, ')' :: rest => do
      guard (letters ≠ [])
      set { state with rest, flags }
      return false
    | _, _ => failure
  | _ => return true

/-- Takes what a group holds, up to its closing parenthesis or the end of the text,
and gives its depth.  The fuel is more than the length of the text. -/
def readContent : (fuel : Nat) → (earlier? : Option Nat) → Sequence → Reader Nat
  | 0, _, _ => failure
  | fuel + 1, earlier?, sequence => do
    Reader.skip
    let state ← get
    match state.rest with
    | [] => return sequence.choiceDepth earlier?
    | c :: rest =>
      if c = ')' then
        return sequence.choiceDepth earlier?
      else if c = '|' then
        Reader.moveTo rest
        let earlier := max (earlier?.getD 0) sequence.parts.depth
        readContent fuel (some earlier) Sequence.empty
      else if c = '(' then
        Reader.moveTo rest
        if ← readGroup then
          let depth ← readContent fuel none Sequence.empty
          guard ((← Reader.next) = ')')
          modify fun inner => { inner with flags := state.flags }
          readContent fuel earlier? (sequence.add (depth + 1))
        else
          readContent fuel earlier? sequence.addFlags
      else if c = '[' then
        Reader.moveTo rest
        let depth ← Bracket.read
        readContent fuel earlier? (sequence.add depth)
      else if c = '*' ∨ c = '+' ∨ c = '?' then
        Reader.moveTo (if rest.head? = some '?' then rest.drop 1 else rest)
        match sequence.repeated? with
        | some sequence => readContent fuel earlier? sequence
        | none => failure
      else if c = '\x7b' then
        failure
      else if c = '.' then
        guard state.flags.unicode
        Reader.moveTo rest
        readContent fuel earlier? (sequence.add 0)
      else if c = '^' ∨ c = '$' then
        Reader.moveTo rest
        readContent fuel earlier? (sequence.add 0)
      else
        guard ((← Atom.read).isAllowed state.flags)
        readContent fuel earlier? (sequence.add 0)

def isPattern (text : Text) : Bool :=
  match (readContent (text.length + 1) none Sequence.empty).run ⟨text, Flags.initial, []⟩ with
  | some (depth, state) => state.rest = [] && depth ≤ maxDepth
  | none => false

example : isPattern ['[', 'a', '-', 'z', ']', '*'] = true := by decide

example : isPattern ['(', 'a'] = false := by decide

example : isPattern ['a', '|', '*'] = false := by decide

end CacheCoherence.Pattern
