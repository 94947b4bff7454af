import LiveFind.Pattern.Basic
import LiveFind.Pattern.Fault
import LiveFind.Text.HexDigit

/-!
# Escapes

What a backslash introduces in a pattern: a literal character, a class of characters, or a place.
Also the flags under which a pattern is read, since they decide what a class holds and whether
blanks are skipped.
-/

namespace LiveFind.Pattern

/-- The flags in force at a point of a pattern. -/
structure Flags where
  /-- `i`: case does not matter. -/
  caseless : Bool := false
  /-- `m`: `^` and `$` are the ends of lines. -/
  lines : Bool := false
  /-- `s`: `.` is any character, a line feed too. -/
  dotAll : Bool := false
  /-- `R`: `\r\n`, `\r` and `\n` all end a line. -/
  anyNewline : Bool := false
  /-- `x`: blanks and comments in the pattern are skipped. -/
  spaced : Bool := false
deriving Repr, DecidableEq

/-- Something read from a pattern, with how deep it nests and the first fault that shows only once
it is understood. -/
structure Part (α : Type) where
  value : α
  height : Nat := 0
  fault : Option Fault := none

/-- Two parts, the first one standing before the second, as one. -/
def Part.join {α β γ : Type} (f : α → β → γ) (a : Part α) (b : Part β) : Part γ :=
  ⟨f a.value b.value, max a.height b.height, a.fault <|> b.fault⟩

/-- A part inside one more level of nesting. -/
def Part.nest {α β : Type} (f : α → β) (a : Part α) : Part β :=
  ⟨f a.value, a.height + 1, a.fault⟩

/-- Drop blanks, and comments from `#` up to the end of the line. -/
def dropSpacing (inComment : Bool) : List Char → List Char
  | [] => []
  | c :: rest =>
    if inComment then dropSpacing (c != '\n') rest
    else if Text.isWhiteSpace c then dropSpacing false rest
    else if c = '#' then dropSpacing true rest
    else c :: rest

/-- Drop what the flags say is skipped. -/
def Flags.skip (flags : Flags) (cs : List Char) : List Char :=
  if flags.spaced then dropSpacing false cs else cs

/-- What one item of a pattern stands for. -/
inductive Atom
  | literal (c : Char)
  | set (s : CharSet)
  | place (p : Place)
deriving Repr, DecidableEq

/-! ### Literals by number -/

/-- The literal with the given code point. -/
def scalarLiteral (n : Nat) : Except Fault Char :=
  if n.isValidChar then .ok (Char.ofNat n) else .error .hexNotScalar

/-- Read exactly `count` hexadecimal digits. -/
def readHexDigits (flags : Flags) : Nat → Nat → List Char → Except Fault (Nat × List Char)
  | 0, n, cs => .ok (n, cs)
  | _ + 1, _, [] => .error .escapeUnfinished
  | count + 1, n, c :: rest =>
    match Text.hexValue? c with
    | some d => readHexDigits flags count (16 * n + d) (flags.skip rest)
    | none => .error .hexDigitInvalid

/-- Read hexadecimal digits up to a closing brace; `digits` counts those read. -/
def readHexBraced (flags : Flags) :
    Nat → Nat → Nat → List Char → Except Fault (Nat × Nat × List Char)
  | 0, _, _, _ => .error .escapeUnfinished
  | _ + 1, _, _, [] => .error .escapeUnfinished
  | fuel + 1, digits, n, c :: rest =>
    if c = '\x7d' then .ok (digits, n, flags.skip rest)
    else
      match Text.hexValue? c with
      | some d => readHexBraced flags fuel (digits + 1) (16 * n + d) (flags.skip rest)
      | none => .error .hexDigitInvalid

/-- Read a literal by number, behind its letter; without braces it has `count` digits. -/
def readHex (flags : Flags) (count : Nat) (cs : List Char) : Except Fault (Char × List Char) :=
  match flags.skip cs with
  | [] => .error .escapeUnfinished
  | c :: rest =>
    if c = '\x7b' then do
      let (digits, n, rest) ← readHexBraced flags (rest.length + 1) 0 0 (flags.skip rest)
      if digits = 0 then .error .hexEmpty
      else
        let c ← scalarLiteral n
        return (c, rest)
    else do
      let (n, rest) ← readHexDigits flags count 0 (c :: rest)
      let c ← scalarLiteral n
      return (c, rest)

/-! ### Classes by property -/

/-- A property name without what does not count in it: case, blanks, `_`, `-` and a leading `is`. -/
def looseName (name : List Char) : List Char :=
  let kept := (name.filter fun c ↦ c.toNat < 0x80 && !" _-".toList.contains c).map Char.toLower
  match kept with
  | 'i' :: 's' :: rest => if rest.isEmpty then kept else rest
  | _ => kept

/-- The set of a general category. -/
def category? (name : List Char) : Option CharSet :=
  match String.ofList (looseName name) with
  | "l" | "letter" => some (.named .letter)
  | "n" | "number" => some (.named .number)
  | "nd" | "decimalnumber" | "digit" => some (.named .digit)
  | "any" => some (.compl .empty)
  | "ascii" => some (.named .ascii)
  | _ => none

/-- The set of a property that a character has or has not. -/
def property? (name : List Char) : Option CharSet :=
  match String.ofList (looseName name) with
  | "alphabetic" | "alpha" => some (.named .alphabetic)
  | "whitespace" | "wspace" | "space" => some (.named .space)
  | _ => category? name

/-- The set that the text between the braces of `\p` names. -/
def propertySet (name : List Char) : Except Fault CharSet :=
  let key := name.takeWhile fun c ↦ c != '=' && c != ':'
  match name.drop key.length with
  | [] => (property? name).elim (.error .propertyUnknown) .ok
  | _ :: value =>
    let negated := key.getLast? == some '!' && name[key.length]? == some '='
    match String.ofList (looseName (if negated then key.dropLast else key)) with
    | "gc" | "generalcategory" =>
      match category? value with
      | some s => .ok (s.negatedIf negated)
      | none => .error .propertyValueUnknown
    | _ => .error .propertyUnknown

/-- Read the name of a property up to a closing brace. -/
def readPropertyName (flags : Flags) : Nat → List Char → List Char →
    Except Fault (List Char × List Char)
  | 0, _, _ => .error .escapeUnfinished
  | _ + 1, _, [] => .error .escapeUnfinished
  | fuel + 1, name, c :: rest =>
    if c = '\x7d' then .ok (name.reverse, rest)
    else readPropertyName flags fuel (c :: name) (flags.skip rest)

/-- Read a class by property, behind its `p` or, negated, its `P`. A name that is not known is a
fault of the class, met once the pattern has been read to its end. -/
def readProperty (flags : Flags) (negated : Bool) (cs : List Char) :
    Except Fault (Part Atom × List Char) := do
  let (name, rest) ←
    match flags.skip cs with
    | [] => .error .escapeUnfinished
    | c :: rest =>
      if c = '\x7b' then readPropertyName flags (rest.length + 1) [] (flags.skip rest)
      else if c = '\\' then .error .propertyInvalid
      else .ok ([c], flags.skip rest)
  match propertySet name with
  | .ok s => return ({ value := .set ((s.ignoringCase flags.caseless).negatedIf negated) }, rest)
  | .error fault => return ({ value := .set .empty, fault := some fault }, rest)

/-! ### All escapes -/

/-- The characters that mean something in a pattern and stand for themselves behind a backslash. -/
def metaCharacters : List Char :=
  "\\.+*?()|[]\x7b\x7d^$#&-~".toList

/-- Whether a backslash in front of the character changes nothing. -/
def isEscapable (c : Char) : Bool :=
  metaCharacters.contains c || (c.toNat < 0x80 && !c.isAlphanum && c != '<' && c != '>')

/-- The place that a name in braces behind `\b` stands for. -/
def wordEdge? (name : List Char) : Option Place :=
  match String.ofList name with
  | "start" => some .wordStart
  | "end" => some .wordEnd
  | "start-half" => some .wordStartHalf
  | "end-half" => some .wordEndHalf
  | _ => none

/-- Read the letters of such a name. -/
def readWordEdgeName (flags : Flags) : Nat → List Char → List Char → List Char × List Char
  | 0, name, cs => (name.reverse, cs)
  | _ + 1, name, [] => (name.reverse, [])
  | fuel + 1, name, c :: rest =>
    if c.isAlpha || c = '-' then readWordEdgeName flags fuel (c :: name) (flags.skip rest)
    else (name.reverse, c :: rest)

/-- Read what follows `\b`. A brace there belongs to a name only if a letter or a dash comes next;
otherwise it is left for the repetition that it opens. -/
def readWordEdge (flags : Flags) (cs : List Char) : Except Fault (Place × List Char) :=
  match cs with
  | '\x7b' :: rest =>
    match flags.skip rest with
    | [] => .error .wordEdgeUnfinished
    | c :: more =>
      if c.isAlpha || c = '-' then
        match readWordEdgeName flags (more.length + 1) [] (c :: more) with
        | (name, '\x7d' :: rest) =>
          (wordEdge? name).elim (.error .wordEdgeUnknown) fun p ↦ .ok (p, rest)
        | _ => .error .wordEdgeUnclosed
      else .ok (.wordEdge, cs)
  | _ => .ok (.wordEdge, cs)

/-- Read an escape, behind its backslash. -/
def readEscape (flags : Flags) : List Char → Except Fault (Part Atom × List Char)
  | [] => .error .escapeUnfinished
  | c :: rest =>
    let atom (a : Atom) (rest : List Char) : Part Atom × List Char := ({ value := a }, rest)
    let literal (c : Char) : Except Fault (Part Atom × List Char) := .ok (atom (.literal c) rest)
    let set (s : CharSet) : Except Fault (Part Atom × List Char) := .ok (atom (.set s) rest)
    let place (p : Place) : Except Fault (Part Atom × List Char) := .ok (atom (.place p) rest)
    let byNumber (count : Nat) : Except Fault (Part Atom × List Char) :=
      (readHex flags count rest).map fun (c, rest) ↦ atom (.literal c) rest
    if c.isDigit then .error .backreference
    else if isEscapable c then literal c
    else
      match c with
      | 'x' => byNumber 2
      | 'u' => byNumber 4
      | 'U' => byNumber 8
      | 'p' => readProperty flags false rest
      | 'P' => readProperty flags true rest
      | 'd' => set (.named .digit)
      | 'D' => set (.compl (.named .digit))
      | 's' => set (.named .space)
      | 'S' => set (.compl (.named .space))
      | 'w' => set (.named .word)
      | 'W' => set (.compl (.named .word))
      | 'a' => literal '\x07'
      | 'f' => literal '\x0c'
      | 't' => literal '\t'
      | 'n' => literal '\n'
      | 'r' => literal '\r'
      | 'v' => literal '\x0b'
      | 'A' => place .textStart
      | 'z' => place .textEnd
      | 'B' => place .notWordEdge
      | '<' => place .wordStart
      | '>' => place .wordEnd
      | 'b' => (readWordEdge flags rest).map fun (p, rest) ↦ atom (.place p) rest
      | _ => .error .escapeUnknown

end LiveFind.Pattern
