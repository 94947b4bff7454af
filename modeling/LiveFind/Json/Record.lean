import LiveFind.Json.Skip

/-!
# Records in JSON texts

A record has named fields of known types. Its text is an object, whose unknown members are passed
over, or an array with the fields in their order. Reading goes field by field, so that a value that
does not fit is reported where it stands.
-/

namespace LiveFind.Json

/-! ### Fields -/

/-- The fault of a value that is of another type than expected. Its own faults, if it is a scalar,
come first. -/
def wrongType (fuel : Nat) (expected : String) (cs : List Char) : Fault :=
  let report : Except Fault Found → Fault
    | .ok found => .invalidType found expected
    | .error fault => fault
  match cs with
  | 'n' :: rest => report ((readWord ['u', 'l', 'l'] rest).map fun _ ↦ .null)
  | 't' :: rest => report ((readWord ['r', 'u', 'e'] rest).map fun _ ↦ .bool true)
  | 'f' :: rest => report ((readWord ['a', 'l', 's', 'e'] rest).map fun _ ↦ .bool false)
  | '"' :: rest => report ((readString fuel rest).map fun (s, _) ↦ .str s)
  | '[' :: _ => report (.ok .sequence)
  | '\x7b' :: _ => report (.ok .map)
  | c :: rest =>
    if c = '-' || c.isDigit then report ((readNumber (c :: rest)).map fun (n, _) ↦ n.found)
    else .valueExpected
  | [] => .endInValue

/-- How a string is named in messages. -/
def stringName : String := "a string"

/-- Read a field that is a string. -/
def readStringField (fuel : Nat) (cs : List Char) : Except Fault (String × List Char) :=
  match dropBlanks cs with
  | '"' :: rest => readString fuel rest
  | cs => .error (wrongType fuel stringName cs)

/-- Read a field that is a string or `null`. -/
def readOptionalStringField (fuel : Nat) (cs : List Char) :
    Except Fault (Option String × List Char) :=
  match dropBlanks cs with
  | 'n' :: rest => (readWord ['u', 'l', 'l'] rest).map (none, ·)
  | cs => (readStringField fuel cs).map fun (s, rest) ↦ (some s, rest)

/-- How a size is named in messages. -/
def sizeName : String := "usize"

/-- The size that a number stands for. -/
def sizeOfNumber : Number → Except Fault Nat
  | .int n => if n < 0 then .error (.invalidValue (.int n) sizeName) else .ok n.toNat
  | .float bits => .error (.invalidType (.float bits) sizeName)

/-- Read a field that is a size: a whole number without sign, of at most 64 bits. -/
def readSizeField (fuel : Nat) (cs : List Char) : Except Fault (Nat × List Char) :=
  match dropBlanks cs with
  | c :: rest =>
    if c = '-' || c.isDigit then do
      let (n, rest) ← readNumber (c :: rest)
      let size ← sizeOfNumber n
      return (size, rest)
    else .error (wrongType fuel sizeName (c :: rest))
  | [] => .error .endInValue

/-- Read the value of a member into a field, unless an earlier member filled it. -/
def fillField {α σ : Type} (name : String) (current : Option α) (set : α → σ)
    (read : List Char → Except Fault (α × List Char)) (cs : List Char) :
    Except Fault (σ × List Char) :=
  if current.isSome then .error (.duplicateField name)
  else do
    let (a, rest) ← read (← readColon cs)
    return (set a, rest)

/-- Read the next item of an array into a field, or leave the field empty if the array ends. -/
def nextField {α : Type} (first : Bool) (read : List Char → Except Fault (α × List Char))
    (cs : List Char) : Except Fault (Option α × List Char) := do
  let (more, cs) ← nextItem first cs
  if more then
    let (a, rest) ← read cs
    return (some a, rest)
  else return (none, cs)

/-! ### Records -/

/-- How a record is read. The draft `σ` holds the fields met so far; the numbers are the fuel. -/
structure Record (σ α : Type) where
  /-- How the record is named where something else is found. -/
  expected : String
  /-- The draft before the first field. -/
  empty : σ
  /-- Take the member with this key, read from behind the key. -/
  member : Nat → σ → String → List Char → Except Fault (σ × List Char)
  /-- Read all fields from an array, from behind its bracket. -/
  items : Nat → List Char → Except Fault (α × List Char)
  /-- The record, once all members are read. -/
  finish : σ → Except Fault α

/-- Read the members of a record up to the end of the object. -/
def Record.readMembers {σ α : Type} (r : Record σ α) :
    Nat → Bool → σ → List Char → Except Fault (σ × List Char)
  | 0, _, _, _ => .error .endInObject
  | fuel + 1, first, draft, cs =>
    match nextKey first cs with
    | .error fault => .error fault
    | .ok (false, rest) => .ok (draft, rest)
    | .ok (true, rest) =>
      match readString fuel rest with
      | .error fault => .error fault
      | .ok (key, rest) =>
        match r.member fuel draft key rest with
        | .error fault => .error fault
        | .ok (draft, rest) => r.readMembers fuel false draft rest

/-- Read the end of an array whose items have all been taken. -/
def readArrayEnd (cs : List Char) : Except Fault (List Char) :=
  match dropBlanks cs with
  | [] => .error .endInArray
  | ']' :: rest => .ok rest
  | ',' :: rest =>
    match dropBlanks rest with
    | ']' :: _ => .error .trailingComma
    | _ => .error .trailingCharacters
  | _ => .error .trailingCharacters

/-- Read a record. -/
def Record.read {σ α : Type} (r : Record σ α) (fuel : Nat) (cs : List Char) :
    Except Fault (α × List Char) :=
  match dropBlanks cs with
  | [] => .error .endInValue
  | '\x7b' :: rest => do
    let (draft, rest) ← r.readMembers fuel true r.empty rest
    let a ← r.finish draft
    return (a, rest)
  | '[' :: rest => do
    let (a, rest) ← r.items fuel rest
    let rest ← readArrayEnd rest
    return (a, rest)
  | cs => .error (wrongType fuel r.expected cs)

/-- Read a whole text as a record. -/
def Record.readText {σ α : Type} (r : Record σ α) (cs : List Char) : Except Fault α := do
  atEnd (← r.read (cs.length + 1) cs)

end LiveFind.Json
