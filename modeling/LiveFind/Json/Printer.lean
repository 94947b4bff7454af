import LiveFind.Json.Basic
import LiveFind.Json.StringLiteral

/-!
# Writing JSON

The compact text of a value: no blanks, members in the order in which they are held.
-/

namespace LiveFind.Json

/-- The text of a whole number. -/
def writeInt (n : Int) : List Char :=
  if n < 0 then '-' :: Nat.toDigits 10 n.natAbs else Nat.toDigits 10 n.natAbs

mutual

/-- The compact text of a value. -/
def write : Json → List Char
  | null => ['n', 'u', 'l', 'l']
  | bool true => ['t', 'r', 'u', 'e']
  | bool false => ['f', 'a', 'l', 's', 'e']
  | int n => writeInt n
  | float bits => floatText bits
  | str s => writeString s
  | arr items => '[' :: writeItems true items
  | obj members => '\x7b' :: writeMembers true members

/-- The items of an array with the commas before them, and its closing bracket. -/
def writeItems (first : Bool) : List Json → List Char
  | [] => [']']
  | item :: rest =>
    (if first then [] else [',']) ++ (write item ++ writeItems false rest)

/-- The members of an object with the commas before them, and its closing brace. -/
def writeMembers (first : Bool) : List (String × Json) → List Char
  | [] => ['\x7d']
  | (key, value) :: rest =>
    (if first then [] else [',']) ++
      (writeString key ++ ':' :: (write value ++ writeMembers false rest))

end

/-- The compact text of a value. -/
def toText (j : Json) : String :=
  String.ofList j.write

end LiveFind.Json
