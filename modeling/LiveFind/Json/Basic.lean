/-!
# JSON values

A value of the data format. Whole numbers from `-2 ^ 63` up to but not including `2 ^ 64` are kept
exactly; all other numbers are doubles, held as their bits, so that `-0.0` and `0.0` stay apart.
Members of an object are sorted by key and no key occurs twice.
-/

namespace LiveFind

/-- A JSON value. -/
inductive Json
  | null
  | bool (b : Bool)
  | int (n : Int)
  | float (bits : UInt64)
  | str (s : String)
  | arr (items : List Json)
  | obj (members : List (String × Json))
deriving Repr, Inhabited

namespace Json

/-- Put a member into sorted members; a member with the same key gives way. -/
def insertMember (key : String) (value : Json) : List (String × Json) → List (String × Json)
  | [] => [(key, value)]
  | (k, v) :: rest =>
    if key < k then (key, value) :: (k, v) :: rest
    else if key = k then (key, value) :: rest
    else (k, v) :: insertMember key value rest

/-- The object with the given members; of several with one key the last one counts. -/
def ofMembers (members : List (String × Json)) : Json :=
  obj (members.foldl (fun sorted (key, value) ↦ insertMember key value sorted) [])

/-- The member of an object with the given key. -/
def member? (key : String) : Json → Option Json
  | obj members => (members.find? (·.1 == key)).map (·.2)
  | _ => none

end Json

end LiveFind
