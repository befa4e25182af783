/-
# JSON values

A value of the interchange format.  Objects keep their members in ascending order of their keys,
with one member per key.
-/
import UrlTransfer.Json.Number

namespace UrlTransfer

/-- A JSON value. -/
inductive Json where
  | null
  | bool (b : Bool)
  | number (n : Json.Number)
  | string (s : String)
  | array (items : List Json)
  | object (members : List (String × Json))
deriving Inhabited

namespace Json

/-- Adds a member to an object's members, in the place of its key; a member with the same key is
replaced. -/
def insert (key : String) (value : Json) : List (String × Json) → List (String × Json)
  | [] => [(key, value)]
  | (k, v) :: rest =>
    if key < k then (key, value) :: (k, v) :: rest
    else if key = k then (key, value) :: rest
    else (k, v) :: insert key value rest

end Json

end UrlTransfer
