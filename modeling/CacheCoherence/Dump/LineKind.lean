import CacheCoherence.Snapshot.Dump
import CacheCoherence.Text.Numeral
import CacheCoherence.Text.Search

/-!
# Kinds of dump lines

Each line of a dump has a kind that depends on nothing but the line.  Marker
texts are recognised anywhere in a line and before everything else; a line is a
record when it begins with the record word, and a header when the header word
occurs in it.  Whether a kind means anything is decided by the reader, which
knows where in the dump the line stands.
-/

namespace CacheCoherence.Dump

open Text

inductive LineKind where
  | sectionOpen
  | sectionClose
  | header (id : CacheId)
  | malformedHeader
  | record (literal : Text)
  | blank
  | other
  deriving DecidableEq, Repr

def LineKind.description : LineKind → String
  | sectionOpen => "section open"
  | sectionClose => "section close"
  | header _ => "cache header"
  | malformedHeader => "malformed cache header"
  | record _ => "record"
  | blank => "blank line"
  | other => "unrecognized line"

/-- The identifier at the start of what follows the header word: all digits up to
the first other character, which has to be a colon. -/
def headerId? (text : Text) : Option CacheId :=
  match text.dropWhile Char.isDigit with
  | ':' :: _ => (word32? (text.takeWhile Char.isDigit)).map CacheId.mk
  | _ => none

/-- The kind of a line without white space at its ends. -/
def LineKind.ofTrimmed (line : Text) : LineKind :=
  if contains line sectionOpening.toList then sectionOpen
  else if contains line sectionClosing.toList then sectionClose
  else if line = [] then blank
  else if recordWord.toList.isPrefixOf line then record line
  else match behind? headerWord.toList line with
    | none => other
    | some rest =>
      match headerId? rest with
      | some id => header id
      | none => malformedHeader

def LineKind.of (line : Text) : LineKind :=
  ofTrimmed (trim line)

end CacheCoherence.Dump
