/-!
# Log entries

What a stage reports about its own progress is a value: a level, the part of the
program that speaks, a message, and named fields in a fixed order.  The stages
have types of their own for what can happen in them; each turns into entries
here, and only the command line decides which entries are shown.
-/

namespace CacheCoherence.Log

inductive Level where
  | error
  | warn
  | info
  | debug
  | trace
  deriving DecidableEq, Repr

namespace Level

/-- The name of a level, as it stands in front of an entry. -/
def name : Level → String
  | error => "ERROR"
  | warn => "WARN"
  | info => "INFO"
  | debug => "DEBUG"
  | trace => "TRACE"

/-- How much a level lets through: a more verbose level has a greater rank. -/
def rank : Level → Nat
  | error => 1
  | warn => 2
  | info => 3
  | debug => 4
  | trace => 5

end Level

structure Entry where
  level : Level
  target : String
  message : String
  fields : List (String × String)
  deriving DecidableEq, Repr

/-- Whether an entry has a field; the message is a field of its own. -/
def Entry.hasField (entry : Entry) (name : String) : Bool :=
  name = "message" || entry.fields.any fun field => field.1 = name

def Entry.line (entry : Entry) : String :=
  entry.level.name ++ " " ++ entry.target ++ ": " ++ entry.message ++
    String.join (entry.fields.map fun field => " " ++ field.1 ++ "=" ++ field.2)

end CacheCoherence.Log
