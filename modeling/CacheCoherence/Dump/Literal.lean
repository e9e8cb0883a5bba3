import CacheCoherence.Snapshot.Dump
import CacheCoherence.Text.Numeral
import CacheCoherence.Text.Search

/-!
# Reading record literals

A record literal is the record word followed by four fields between braces.  A
field is a key and a value around a colon; the keys may come in any order, each
exactly once, and white space is allowed around keys and values, inside the
braces and between the word and the opening brace.

The fields are read from left to right, and the first one that is not in order
decides the error.  A field is looked at by itself first and compared with the
earlier ones only when its value is good.
-/

namespace CacheCoherence.Dump

open Text

inductive Key where
  | setIndex
  | tag
  | lastUsed
  | state
  deriving DecidableEq, Repr

namespace Key

def name : Key → String
  | setIndex => "set_index"
  | tag => "tag"
  | lastUsed => "last_used"
  | state => "status"

/-- The fields in the order in which literals are written. -/
def all : List Key :=
  [setIndex, tag, lastUsed, state]

def ofName? (name : Text) : Option Key :=
  all.find? fun key => key.name.toList = name

end Key

inductive Entry where
  | setIndex (value : UInt64)
  | tag (value : UInt64)
  | lastUsed (value : UInt64)
  | state (value : LineState)
  deriving DecidableEq, Repr

def Entry.key : Entry → Key
  | setIndex _ => .setIndex
  | tag _ => .tag
  | lastUsed _ => .lastUsed
  | state _ => .state

inductive LiteralError where
  | malformedRecord
  | fieldCount (found : Nat)
  | malformedField (field : String)
  | unknownField (key : String)
  | duplicateField (key : Key)
  | invalidNumber (key : Key) (value : String)
  | unknownStatus (value : String)
  deriving DecidableEq, Repr

def LiteralError.message : LiteralError → String
  | malformedRecord => "record is not of the form CacheLine\x7b...\x7d"
  | fieldCount found => "expected 4 fields, found " ++ found.repr
  | malformedField field => "field '" ++ field ++ "' is not a `key: value` pair"
  | unknownField key => "unknown field '" ++ key ++ "'"
  | duplicateField key => "field '" ++ key.name ++ "' appears more than once"
  | invalidNumber key value =>
    "field '" ++ key.name ++ "' is not a non-negative integer: '" ++ value ++ "'"
  | unknownStatus value => "unknown status '" ++ value ++ "' (expected M, E, S or I)"

/-- The text between the braces of a literal. -/
def body? (literal : Text) : Option Text := do
  let rest ← recordWord.toList.isPrefixOf? (trim literal)
  let inside ← ['\x7b'].isPrefixOf? (trimStart rest)
  ['\x7d'].isSuffixOf? (trimEnd inside)

def readNumber (key : Key) (value : Text) : Except LiteralError UInt64 :=
  match word64? value with
  | some number => .ok number
  | none => .error (.invalidNumber key (String.ofList value))

/-- The value of a field, once its key is known. -/
def readValue (key : Key) (value : Text) : Except LiteralError Entry :=
  match key with
  | .setIndex => (readNumber key value).map .setIndex
  | .tag => (readNumber key value).map .tag
  | .lastUsed => (readNumber key value).map .lastUsed
  | .state =>
    match LineState.ofLetter? value with
    | some state => .ok (.state state)
    | none => .error (.unknownStatus (String.ofList value))

/-- A single field, regardless of the others. -/
def readField (field : Text) : Except LiteralError Entry :=
  match cut? ':' field with
  | none => .error (.malformedField (String.ofList (trim field)))
  | some (key, value) =>
    match Key.ofName? (trim key) with
    | none => .error (.unknownField (String.ofList (trim key)))
    | some key => readValue key (trim value)

/-- The fields from left to right, when those in `seen` have been given. -/
def readFields (seen : List Key) : List Text → Except LiteralError (List Entry)
  | [] => .ok []
  | field :: rest =>
    match readField field with
    | .error error => .error error
    | .ok entry =>
      if entry.key ∈ seen then
        .error (.duplicateField entry.key)
      else
        (readFields (entry.key :: seen) rest).map (entry :: ·)

/-- The record with these entries, if they give every field a value. -/
def ofEntries? (entries : List Entry) : Option Record := do
  let setIndex ← entries.findSome? fun
    | .setIndex value => some value
    | _ => none
  let tag ← entries.findSome? fun
    | .tag value => some value
    | _ => none
  let lastUsed ← entries.findSome? fun
    | .lastUsed value => some value
    | _ => none
  let state ← entries.findSome? fun
    | .state value => some value
    | _ => none
  return { setIndex, tag, lastUsed, state }

/-- The record that a literal describes.  Four entries with different keys give
every field a value, so the last error below does not occur. -/
def readRecord (literal : Text) : Except LiteralError Record :=
  match body? literal with
  | none => .error .malformedRecord
  | some body =>
    let fields := body.splitOn ','
    if fields.length ≠ Key.all.length then
      .error (.fieldCount fields.length)
    else
      match readFields [] fields with
      | .error error => .error error
      | .ok entries =>
        match ofEntries? entries with
        | some record => .ok record
        | none => .error .malformedRecord

end CacheCoherence.Dump
