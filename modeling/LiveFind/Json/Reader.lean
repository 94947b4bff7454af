import LiveFind.Json.Basic
import LiveFind.Json.Number
import LiveFind.Json.StringLiteral

/-!
# Reading JSON

From a text to the value it denotes, or to the first fault in it. Arrays and objects nest up to a
limit that the caller sets. The amount of fuel only has to exceed the length of the text.
-/

namespace LiveFind.Json

/-- The levels of arrays and objects that a text may nest. -/
def nestLimit : Nat := 127

/-- Drop blanks. -/
def dropBlanks (cs : List Char) : List Char :=
  cs.dropWhile fun c ↦ c = ' ' || c = '\n' || c = '\t' || c = '\r'

/-- Read the given word. -/
def readWord : List Char → List Char → Except Fault (List Char)
  | [], cs => .ok cs
  | _ :: _, [] => .error .endInValue
  | w :: word, c :: rest => if c = w then readWord word rest else .error .wordExpected

/-- Read the colon behind a key. -/
def readColon (cs : List Char) : Except Fault (List Char) :=
  match dropBlanks cs with
  | [] => .error .endInObject
  | ':' :: rest => .ok rest
  | _ => .error .colonExpected

/-- Whether another item of an array follows, and where it starts; if none does, the array ends
there. -/
def nextItem (first : Bool) (cs : List Char) : Except Fault (Bool × List Char) :=
  match dropBlanks cs with
  | [] => .error .endInArray
  | ']' :: rest => .ok (false, ']' :: rest)
  | c :: rest =>
    if first then .ok (true, c :: rest)
    else if c = ',' then
      match dropBlanks rest with
      | [] => .error .endInValue
      | ']' :: _ => .error .trailingComma
      | rest => .ok (true, rest)
    else .error .arrayCommaExpected

/-- Whether another member of an object follows, and the text behind the opening quote of its key;
if none does, the text behind the object. -/
def nextKey (first : Bool) (cs : List Char) : Except Fault (Bool × List Char) :=
  match dropBlanks cs with
  | [] => .error .endInObject
  | '\x7d' :: rest => .ok (false, rest)
  | c :: rest =>
    if first then
      if c = '"' then .ok (true, rest) else .error .keyNotString
    else if c = ',' then
      match dropBlanks rest with
      | [] => .error .endInValue
      | '"' :: rest => .ok (true, rest)
      | '\x7d' :: _ => .error .trailingComma
      | _ => .error .keyNotString
    else .error .objectCommaExpected

/-- The value of a number. -/
def ofNumber : Number → Json
  | .int n => .int n
  | .float bits => .float bits

mutual

/-- Read a value with at most `depth` levels of arrays and objects. -/
def readValue : Nat → Nat → List Char → Except Fault (Json × List Char)
  | 0, _, _ => .error .endInValue
  | fuel + 1, depth, cs =>
    match dropBlanks cs with
    | [] => .error .endInValue
    | 'n' :: rest => (readWord ['u', 'l', 'l'] rest).map (null, ·)
    | 't' :: rest => (readWord ['r', 'u', 'e'] rest).map (bool true, ·)
    | 'f' :: rest => (readWord ['a', 'l', 's', 'e'] rest).map (bool false, ·)
    | '"' :: rest => (readString fuel rest).map fun (s, rest) ↦ (str s, rest)
    | '[' :: rest =>
      if depth = 0 then .error .nestedTooDeep
      else (readItems fuel (depth - 1) true rest).map fun (items, rest) ↦ (arr items, rest)
    | '\x7b' :: rest =>
      if depth = 0 then .error .nestedTooDeep
      else (readMembers fuel (depth - 1) true [] rest).map fun (members, rest) ↦ (obj members, rest)
    | c :: rest =>
      if c = '-' || c.isDigit then (readNumber (c :: rest)).map fun (n, rest) ↦ (ofNumber n, rest)
      else .error .valueExpected

/-- Read the items of an array and its end. -/
def readItems : Nat → Nat → Bool → List Char → Except Fault (List Json × List Char)
  | 0, _, _, _ => .error .endInArray
  | fuel + 1, depth, first, cs =>
    match nextItem first cs with
    | .error fault => .error fault
    | .ok (false, rest) => .ok ([], rest.drop 1)
    | .ok (true, rest) =>
      match readValue fuel depth rest with
      | .error fault => .error fault
      | .ok (item, rest) =>
        match readItems fuel depth false rest with
        | .error fault => .error fault
        | .ok (items, rest) => .ok (item :: items, rest)

/-- Read the members of an object and its end; `members` holds those before. -/
def readMembers : Nat → Nat → Bool → List (String × Json) → List Char →
    Except Fault (List (String × Json) × List Char)
  | 0, _, _, _, _ => .error .endInObject
  | fuel + 1, depth, first, members, cs =>
    match nextKey first cs with
    | .error fault => .error fault
    | .ok (false, rest) => .ok (members, rest)
    | .ok (true, rest) =>
      match readString fuel rest with
      | .error fault => .error fault
      | .ok (key, rest) =>
        match readColon rest with
        | .error fault => .error fault
        | .ok rest =>
          match readValue fuel depth rest with
          | .error fault => .error fault
          | .ok (value, rest) => readMembers fuel depth false (insertMember key value members) rest

end

/-- Whatever was read, if nothing but blanks follows. -/
def atEnd {α : Type} (r : α × List Char) : Except Fault α :=
  if (dropBlanks r.2).isEmpty then .ok r.1 else .error .trailingCharacters

/-- Read a whole text as one value with at most `depth` levels. -/
def readText (depth : Nat) (cs : List Char) : Except Fault Json := do
  atEnd (← readValue (cs.length + 1) depth cs)

end LiveFind.Json
