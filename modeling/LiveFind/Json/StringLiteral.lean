import LiveFind.Json.Fault
import LiveFind.Text.HexDigit

/-!
# Strings in JSON texts

Writing escapes the quote, the backslash and the control characters. Reading undoes every escape;
characters beyond the 16-bit range may be written as two of them, a high and a low surrogate.
-/

namespace LiveFind.Json

/-! ### Writing -/

/-- A character inside a string. -/
def escapeChar (c : Char) : List Char :=
  if c = '"' then ['\\', '"']
  else if c = '\\' then ['\\', '\\']
  else if c = '\x08' then ['\\', 'b']
  else if c = '\t' then ['\\', 't']
  else if c = '\n' then ['\\', 'n']
  else if c = '\x0c' then ['\\', 'f']
  else if c = '\r' then ['\\', 'r']
  else if c.toNat < 0x20 then
    ['\\', 'u', '0', '0', Nat.digitChar (c.toNat / 16), Nat.digitChar (c.toNat % 16)]
  else [c]

/-- A string with its quotes. -/
def writeString (s : String) : List Char :=
  '"' :: s.toList.flatMap escapeChar ++ ['"']

/-! ### Reading -/

/-- How many bytes the characters take in UTF-8. -/
def byteCount (cs : List Char) : Nat :=
  cs.foldl (fun n c ↦ n + c.utf8Size) 0

/-- Read the four digits of a numbered escape. They are cut off if fewer than four bytes are left.
-/
def readCodeUnit (cs : List Char) : Except Fault (Nat × List Char) :=
  match (cs.take 4).mapM Text.hexValue? with
  | some [a, b, c, d] => .ok (((a * 16 + b) * 16 + c) * 16 + d, cs.drop 4)
  | _ => .error (if byteCount (cs.take 4) < 4 then .endInString else .invalidEscape)

/-- Read the low surrogate that has to follow a high one, and join them. -/
def readLowSurrogate (high : Nat) : List Char → Except Fault (Char × List Char)
  | [] => .error .endInString
  | ['\\'] => .error .endInString
  | '\\' :: 'u' :: rest => do
    let (low, rest) ← readCodeUnit rest
    if low < 0xDC00 ∨ 0xDFFF < low then throw .loneSurrogate
    return (Char.ofNat ((high - 0xD800) * 0x400 + (low - 0xDC00) + 0x10000), rest)
  | _ => .error .surrogateUnfinished

/-- The character that one letter behind a backslash stands for. -/
def shortEscape? (c : Char) : Option Char :=
  match c with
  | '"' => some '"'
  | '\\' => some '\\'
  | '/' => some '/'
  | 'b' => some '\x08'
  | 'f' => some '\x0c'
  | 'n' => some '\n'
  | 'r' => some '\r'
  | 't' => some '\t'
  | _ => none

/-- Read an escape, behind its backslash. -/
def readEscape : List Char → Except Fault (Char × List Char)
  | [] => .error .endInString
  | 'u' :: rest => do
    let (n, rest) ← readCodeUnit rest
    if 0xDC00 ≤ n ∧ n ≤ 0xDFFF then throw .loneSurrogate
    if 0xD800 ≤ n ∧ n ≤ 0xDBFF then readLowSurrogate n rest
    else return (Char.ofNat n, rest)
  | c :: rest =>
    match shortEscape? c with
    | some c => .ok (c, rest)
    | none => .error .invalidEscape

/-- Read the rest of a string, behind its opening quote, with the closing one. -/
def readChars : Nat → List Char → Except Fault (List Char × List Char)
  | 0, _ => .error .endInString
  | _ + 1, [] => .error .endInString
  | fuel + 1, c :: rest =>
    if c = '"' then .ok ([], rest)
    else if c = '\\' then do
      let (c, rest) ← readEscape rest
      let (cs, rest) ← readChars fuel rest
      return (c :: cs, rest)
    else if c.toNat < 0x20 then .error .controlCharacter
    else do
      let (cs, rest) ← readChars fuel rest
      return (c :: cs, rest)

/-- Read the rest of a string, behind its opening quote. -/
def readString (fuel : Nat) (cs : List Char) : Except Fault (String × List Char) := do
  let (cs, rest) ← readChars fuel cs
  return (String.ofList cs, rest)

/-- Pass over an escape. Surrogates need not be paired. -/
def skipEscape : List Char → Except Fault (List Char)
  | [] => .error .endInString
  | 'u' :: rest => (readCodeUnit rest).map (·.2)
  | c :: rest => if (shortEscape? c).isSome then .ok rest else .error .invalidEscape

/-- Pass over the rest of a string. -/
def skipString : Nat → List Char → Except Fault (List Char)
  | 0, _ => .error .endInString
  | _ + 1, [] => .error .endInString
  | fuel + 1, c :: rest =>
    if c = '"' then .ok rest
    else if c = '\\' then do skipString fuel (← skipEscape rest)
    else if c.toNat < 0x20 then .error .controlCharacter
    else skipString fuel rest

end LiveFind.Json
