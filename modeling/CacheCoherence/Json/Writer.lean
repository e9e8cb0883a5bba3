import CacheCoherence.Json.Value
import CacheCoherence.Json.Quoted

/-!
# Writing JSON

The compact form has no white space at all.  The indented form puts each item
and each member on a line of its own, two blanks deeper than what encloses it;
an empty list or object keeps its brackets together.
-/

namespace CacheCoherence.Json

mutual

def compact : Json → String
  | .null => "null"
  | .bool value => if value then "true" else "false"
  | .number value => value.repr
  | .string value => quoted value
  | .list items => "[" ++ ",".intercalate (compactItems items) ++ "]"
  | .object members => "\x7b" ++ ",".intercalate (compactMembers members) ++ "\x7d"

def compactItems : List Json → List String
  | [] => []
  | item :: rest => compact item :: compactItems rest

/-- Members in compact form, each a name and a value around a colon. -/
def compactMembers : List (String × Json) → List String
  | [] => []
  | (name, value) :: rest => (quoted name ++ ":" ++ compact value) :: compactMembers rest

end

/-- The white space in front of a line at this depth. -/
def indent (depth : Nat) : String :=
  String.ofList (List.replicate (2 * depth) ' ')

/-- Written parts between brackets, one to a line. -/
def enclosed (opening closing : String) (depth : Nat) (parts : List String) : String :=
  if parts = [] then
    opening ++ closing
  else
    opening ++ "\n" ++ ",\n".intercalate (parts.map (indent (depth + 1) ++ ·)) ++ "\n" ++
      indent depth ++ closing

mutual

/-- The indented form of a value that stands at this depth. -/
def indented (depth : Nat) : Json → String
  | .null => "null"
  | .bool value => if value then "true" else "false"
  | .number value => value.repr
  | .string value => quoted value
  | .list items => enclosed "[" "]" depth (indentedItems (depth + 1) items)
  | .object members => enclosed "\x7b" "\x7d" depth (indentedMembers (depth + 1) members)

def indentedItems (depth : Nat) : List Json → List String
  | [] => []
  | item :: rest => indented depth item :: indentedItems depth rest

/-- Members that stand at this depth, with a blank behind the colon. -/
def indentedMembers (depth : Nat) : List (String × Json) → List String
  | [] => []
  | (name, value) :: rest =>
    (quoted name ++ ": " ++ indented depth value) :: indentedMembers depth rest

end

/-- The indented form of a whole document. -/
def pretty (value : Json) : String :=
  indented 0 value

end CacheCoherence.Json
