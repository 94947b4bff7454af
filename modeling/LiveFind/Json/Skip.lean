import LiveFind.Json.Reader

/-!
# Passing over JSON

A value that nobody asks for still has to be well formed. It may nest as deep as it likes, its
numbers may be of any size and its surrogates need not be paired.
-/

namespace LiveFind.Json

/-- Pass over the digits of an exponent, behind its letter. -/
def skipExponent (cs : List Char) : Except Fault (List Char) :=
  let cs := match cs with
    | '+' :: rest | '-' :: rest => rest
    | _ => cs
  match cs with
  | c :: rest => if c.isDigit then .ok (rest.dropWhile Char.isDigit) else .error .invalidNumber
  | [] => .error .invalidNumber

/-- Pass over a number, behind its sign. -/
def skipMagnitude (cs : List Char) : Except Fault (List Char) := do
  let digits := cs.takeWhile Char.isDigit
  if digits.isEmpty ∨ (digits.head? = some '0' ∧ 1 < digits.length) then throw .invalidNumber
  match cs.drop digits.length with
  | '.' :: rest =>
    let places := rest.takeWhile Char.isDigit
    if places.isEmpty then throw .invalidNumber
    match rest.drop places.length with
    | 'e' :: rest | 'E' :: rest => skipExponent rest
    | rest => return rest
  | 'e' :: rest | 'E' :: rest => skipExponent rest
  | rest => return rest

mutual

/-- Pass over a value. -/
def skipValue : Nat → List Char → Except Fault (List Char)
  | 0, _ => .error .endInValue
  | fuel + 1, cs =>
    match dropBlanks cs with
    | [] => .error .endInValue
    | 'n' :: rest => readWord ['u', 'l', 'l'] rest
    | 't' :: rest => readWord ['r', 'u', 'e'] rest
    | 'f' :: rest => readWord ['a', 'l', 's', 'e'] rest
    | '"' :: rest => skipString fuel rest
    | '-' :: rest => skipMagnitude rest
    | '[' :: rest => skipItems fuel true rest
    | '\x7b' :: rest => skipMembers fuel true rest
    | c :: rest => if c.isDigit then skipMagnitude (c :: rest) else .error .valueExpected

/-- Pass over the items of an array and its end. -/
def skipItems : Nat → Bool → List Char → Except Fault (List Char)
  | 0, _, _ => .error .endInArray
  | fuel + 1, first, cs =>
    match dropBlanks cs with
    | [] => .error .endInArray
    | ']' :: rest => .ok rest
    | c :: rest =>
      if first then
        match skipValue fuel (c :: rest) with
        | .error fault => .error fault
        | .ok rest => skipItems fuel false rest
      else if c = ',' then
        match skipValue fuel rest with
        | .error fault => .error fault
        | .ok rest => skipItems fuel false rest
      else .error .arrayCommaExpected

/-- Pass over the members of an object and its end. -/
def skipMembers : Nat → Bool → List Char → Except Fault (List Char)
  | 0, _, _ => .error .endInObject
  | fuel + 1, first, cs =>
    match dropBlanks cs with
    | [] => .error .endInObject
    | '\x7d' :: rest => .ok rest
    | c :: rest =>
      if !first && c ≠ ',' then .error .objectCommaExpected
      else
        match dropBlanks (if first then c :: rest else rest) with
        | [] => .error .endInObject
        | '"' :: rest =>
          match skipString fuel rest with
          | .error fault => .error fault
          | .ok rest =>
            match readColon rest with
            | .error fault => .error fault
            | .ok rest =>
              match skipValue fuel rest with
              | .error fault => .error fault
              | .ok rest => skipMembers fuel false rest
        | _ => .error .keyNotString

end

/-- Pass over the value of a member, behind its key. -/
def skipMember (fuel : Nat) (cs : List Char) : Except Fault (List Char) := do
  skipValue fuel (← readColon cs)

end LiveFind.Json
