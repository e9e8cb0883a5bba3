import CacheCoherence.Pattern.Atom

/-!
# Classes in brackets

A class lists characters and ranges between brackets.  Classes may stand in
classes, and two lists can be joined by an operator of two equal marks.  Reading
a class gives the depth of its nesting; a list of several members counts as a
level of its own, and so does an operator.
-/

namespace CacheCoherence.Pattern

/-- A list of parts that has been read: their number and the greatest depth. -/
structure Parts where
  count : Nat
  deepest : Nat
  deriving DecidableEq, Repr

namespace Parts

def none : Parts :=
  ⟨0, 0⟩

def add (parts : Parts) (depth : Nat) : Parts :=
  ⟨parts.count + 1, max parts.deepest depth⟩

/-- The depth of a list; a single part needs no level for the list. -/
def depth (parts : Parts) : Nat :=
  if parts.count ≤ 1 then parts.deepest else parts.deepest + 1

end Parts

namespace Bracket

/-- The depth of a list, with the depth of what is joined to its left. -/
def joined (left? : Option Nat) (members : Parts) : Nat :=
  match left? with
  | some left => max left members.depth + 1
  | none => members.depth

def asciiNames : List String :=
  ["alnum", "alpha", "ascii", "blank", "cntrl", "digit", "graph", "lower", "print", "punct",
    "space", "upper", "word", "xdigit"]

/-- The class of ASCII characters whose name stands between colons at the front of
a text, behind its first bracket: whether it is negated, and what follows it. -/
def ascii? (text : Text) : Option (Bool × Text) := do
  let named ← [':'].isPrefixOf? text
  let negated := ['^'].isPrefixOf named
  let named := if negated then named.drop 1 else named
  let rest ← [':', ']'].isPrefixOf? (named.dropWhile (· != ':'))
  if String.ofList (named.takeWhile (· != ':')) ∈ asciiNames then
    return (negated, rest)
  else
    failure

/-- Whether the text behind a hyphen makes it the middle of a range. -/
def continuesRange (flags : Flags) (text : Text) : Bool :=
  let first? :=
    if flags.ignoreSpace then (firstSolid? false text).or text.head? else text.head?
  first? ≠ some ']' && first? ≠ some '-'

/-- Takes a member of a class that is a character, a range or a shorthand. -/
def readMember : Reader Unit := do
  let flags ← Reader.flags
  let first ← Atom.read
  guard (first.isMember flags)
  Reader.skip
  match ← Reader.rest with
  | '-' :: more =>
    if continuesRange flags more then
      Reader.moveTo more
      Reader.skip
      let last ← Atom.read
      guard (last.isMember flags)
      match first.character?, last.character? with
      | some lower, some upper => guard (lower.toNat ≤ upper.toNat)
      | _, _ => failure
  | _ => return ()

/-- Takes the opening of a class behind its bracket.  A negated class would match
bytes that are no characters. -/
def readOpening : Reader Unit := do
  Reader.skip
  match ← Reader.rest with
  | '^' :: rest =>
    guard (← Reader.flags).unicode
    Reader.moveTo rest
  | _ => return ()

/-- Takes the members of a class and its closing bracket, and gives the depth of
the members.  At the front of a class hyphens are members, and a bracket that
would close it at once is one too.  The fuel is more than the length of the
text. -/
def readMembers : (fuel : Nat) → (front : Bool) → (left? : Option Nat) → Parts → Reader Nat
  | 0, _, _, _ => failure
  | fuel + 1, front, left?, members => do
    Reader.skip
    let flags ← Reader.flags
    match ← Reader.rest with
    | [] => failure
    | c :: rest =>
      if front ∧ c = '-' then
        guard flags.canCompare
        Reader.moveTo rest
        readMembers fuel true left? (members.add 0)
      else if front ∧ c = ']' ∧ members.count = 0 then
        guard flags.canCompare
        Reader.moveTo rest
        readMembers fuel false left? (members.add 0)
      else if c = ']' then
        Reader.moveTo rest
        return joined left? members
      else if c = '[' then
        match ascii? rest with
        | some (negated, rest) =>
          guard (flags.canCompare && (flags.unicode || !negated))
          Reader.moveTo rest
          readMembers fuel false left? (members.add 0)
        | none =>
          Reader.moveTo rest
          readOpening
          let depth ← readMembers fuel true none Parts.none
          readMembers fuel false left? (members.add (depth + 1))
      else if (c = '&' ∨ c = '-' ∨ c = '~') ∧ rest.head? = some c then
        Reader.moveTo (rest.drop 1)
        readMembers fuel false (some (joined left? members)) Parts.none
      else
        readMember
        readMembers fuel false left? (members.add 0)

/-- Takes a class behind its first bracket, and gives its depth. -/
def read : Reader Nat := do
  readOpening
  let depth ← readMembers ((← Reader.rest).length + 1) true none Parts.none
  return depth + 1

end Bracket

end CacheCoherence.Pattern
