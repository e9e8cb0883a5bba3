/-!
# JSON values

The part of JSON that reports need: null, truth values, natural numbers, strings,
lists, and objects whose members keep the order in which they are given.
-/

namespace CacheCoherence

inductive Json where
  | null
  | bool (value : Bool)
  | number (value : Nat)
  | string (value : String)
  | list (items : List Json)
  | object (members : List (String × Json))

end CacheCoherence
