import LiveFind.Json.Fault

/-!
# Numbers in JSON texts

A whole number that fits 64 bits is kept exactly. Everything else becomes a double: the first digits
that fit 64 bits are the significand, later ones count by their number only, and the power of ten is
applied by one multiplication or division.
-/

namespace LiveFind.Json

/-- A number as it was written: whole and within 64 bits, or a double. -/
inductive Number
  | int (n : Int)
  | float (bits : UInt64)
deriving Repr, DecidableEq

/-- The number as a value that was not expected. -/
def Number.found : Number → Found
  | int n => .int n
  | float bits => .float bits

/-- The value of a decimal digit. -/
def digitValue (c : Char) : Nat :=
  c.toNat - 0x30

/-- The largest significand. -/
def significandLimit : Nat := 0xffffffffffffffff

/-- The largest exponent that can be written. -/
def exponentLimit : Nat := 0x7fffffff

/-- The significand with the digits behind it that still fit, and how many did. -/
def absorb (significand : Nat) : List Char → Nat × Nat
  | [] => (significand, 0)
  | c :: rest =>
    let n := 10 * significand + digitValue c
    if significandLimit < n then (significand, 0)
    else
      let (n, count) := absorb n rest
      (n, count + 1)

/-- The fault of a number that ends where a digit is needed. -/
def digitMissing (rest : List Char) : Fault :=
  if rest.isEmpty then .endInValue else .invalidNumber

/-- Multiply by a power of ten. A small double may take several divisions, and the third one yields
zero. -/
def scaleByTen : Nat → Float → Int → Except Fault Float
  | 0, f, _ => .ok f
  | fuel + 1, f, exponent =>
    let power : Float := Float.ofScientific 1 false (min exponent.natAbs 308)
    if exponent.natAbs ≤ 308 then
      if 0 ≤ exponent then
        if (f * power).isInf then .error .numberOutOfRange else .ok (f * power)
      else .ok (f / power)
    else if f == 0 then .ok f
    else if 0 ≤ exponent then .error .numberOutOfRange
    else scaleByTen fuel (f / power) (exponent + 308)

/-- The double `significand * 10 ^ exponent` with its sign. -/
def doubleOfParts (negative : Bool) (significand : Nat) (exponent : Int) : Except Fault Number := do
  let f ← scaleByTen 3 significand.toUInt64.toFloat exponent
  return .float (if negative then -f else f).toBits

/-- Read the exponent of a number, behind its letter. -/
def readExponent (negative : Bool) (significand : Nat) (exponent : Int) (cs : List Char) :
    Except Fault (Number × List Char) := do
  let (below, cs) := match cs with
    | '-' :: rest => (true, rest)
    | '+' :: rest => (false, rest)
    | _ => (false, cs)
  let digits := cs.takeWhile Char.isDigit
  let rest := cs.drop digits.length
  if digits.isEmpty then throw (digitMissing rest)
  let n := digits.foldl (fun n c ↦ 10 * n + digitValue c) 0
  if exponentLimit < n then
    if significand ≠ 0 ∧ ¬ below then throw .numberOutOfRange
    return (.float (if negative then -0.0 else 0.0 : Float).toBits, rest)
  let number ← doubleOfParts negative significand (if below then exponent - n else exponent + n)
  return (number, rest)

/-- Read the places of a number, behind its point. -/
def readPlaces (negative : Bool) (significand : Nat) (exponent : Int) (cs : List Char) :
    Except Fault (Number × List Char) := do
  let digits := cs.takeWhile Char.isDigit
  let rest := cs.drop digits.length
  if digits.isEmpty then throw (digitMissing rest)
  let (significand, count) := absorb significand digits
  let exponent := exponent - count
  match rest with
  | 'e' :: rest | 'E' :: rest => readExponent negative significand exponent rest
  | _ => return (← doubleOfParts negative significand exponent, rest)

/-- The largest magnitude of a negative number that is kept exactly. -/
def negativeLimit : Nat := 0x8000000000000000

/-- The number of a text without point and exponent, if all its digits fit. Zero has a sign only as
a double. -/
def wholeNumber (negative : Bool) (n : Nat) : Number :=
  if !negative then .int n
  else if 0 < n ∧ n ≤ negativeLimit then .int (-n)
  else .float (-n.toUInt64.toFloat).toBits

/-- Read a number, behind its sign. -/
def readMagnitude (negative : Bool) (cs : List Char) : Except Fault (Number × List Char) := do
  let digits := cs.takeWhile Char.isDigit
  let rest := cs.drop digits.length
  match digits with
  | [] => throw (digitMissing rest)
  | '0' :: _ :: _ => throw .invalidNumber
  | _ =>
    let (significand, count) := absorb 0 digits
    let exponent : Int := digits.length - count
    match rest with
    | '.' :: rest => readPlaces negative significand exponent rest
    | 'e' :: rest | 'E' :: rest => readExponent negative significand exponent rest
    | _ =>
      if exponent = 0 then return (wholeNumber negative significand, rest)
      else return (← doubleOfParts negative significand exponent, rest)

/-- Read a number. -/
def readNumber : List Char → Except Fault (Number × List Char)
  | '-' :: rest => readMagnitude true rest
  | cs => readMagnitude false cs

end LiveFind.Json
