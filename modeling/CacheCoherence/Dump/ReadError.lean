import CacheCoherence.Dump.LineKind
import CacheCoherence.Dump.Literal
import CacheCoherence.Text.Lines

/-!
# Lines that do not fit

The errors of reading a dump: what is wrong with a line where it stands, and
which line of the dump it is.
-/

namespace CacheCoherence.Dump

/-- Why a line does not fit where it stands. -/
inductive LineError where
  | literal (error : LiteralError)
  | malformedHeader
  | recordOutsideCache
  | unexpectedLine
  deriving DecidableEq, Repr

def LineError.message : LineError → String
  | literal error => error.message
  | malformedHeader => "malformed cache header (expected `Cache <id>:`)"
  | recordOutsideCache => "record appears before any `Cache <id>:` header"
  | unexpectedLine =>
    "unexpected " ++ LineKind.other.description ++ " inside a cache-content section"

/-- The line at which reading stopped: its number, counted from one, its text
without line end, and the cause. -/
structure ReadError where
  line : Nat
  text : String
  cause : LineError
  deriving DecidableEq, Repr

def ReadError.message (error : ReadError) : String :=
  "Parse error at line " ++ error.line.repr ++ ": " ++ error.cause.message ++
    ": '" ++ error.text ++ "'"

def ReadError.at (line : Nat) (raw : Text) (cause : LineError) : ReadError :=
  { line, text := String.ofList (Text.dropLineEnd raw), cause }

end CacheCoherence.Dump
