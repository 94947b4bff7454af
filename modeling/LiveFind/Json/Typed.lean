import LiveFind.Json.Record

/-!
# Values of a known type

A JSON value where a string, a size or the fields of a record are asked for.
-/

namespace LiveFind.Json

/-- The value as it is named where something else was expected. -/
def found : Json → Found
  | null => .null
  | bool b => .bool b
  | int n => .int n
  | float bits => .float bits
  | str s => .str s
  | arr _ => .sequence
  | obj _ => .map

/-- What is asked of an array that holds more than the fields of its record. -/
def fewerItems : String := "fewer elements in array"

/-- The value as a string. -/
def asString : Json → Except Fault String
  | str s => .ok s
  | j => .error (.invalidType j.found stringName)

/-- The value as a string, or nothing for `null`. -/
def asOptionalString : Json → Except Fault (Option String)
  | null => .ok none
  | j => j.asString.map some

/-- The value as a size. -/
def asSize : Json → Except Fault Nat
  | int n => sizeOfNumber (.int n)
  | float bits => sizeOfNumber (.float bits)
  | j => .error (.invalidType j.found sizeName)

end LiveFind.Json
