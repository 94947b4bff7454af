import LiveFind.Pattern.Bracket

/-!
# Reading patterns

From the text of a pattern to its expression. The first fault from the left wins; faults that need
the whole pattern to be understood (nesting, unknown properties) come after those of its form.
-/

namespace LiveFind.Pattern

/-! ### Repetition counts -/

/-- The largest count that a repetition may name. -/
def countLimit : Nat := 0xffffffff

/-- Read the digits of a count. -/
def readDigits (flags : Flags) : Nat → List Char → List Char → List Char × List Char
  | 0, digits, cs => (digits.reverse, cs)
  | _ + 1, digits, [] => (digits.reverse, [])
  | fuel + 1, digits, c :: rest =>
    if c.isDigit then readDigits flags fuel (c :: digits) (flags.skip rest)
    else (digits.reverse, c :: rest)

/-- Read a count with the blanks around it. A count that is missing or too large is reported by the
caller, which looks at what follows first. -/
def readCount (flags : Flags) (cs : List Char) : Except Fault Nat × List Char :=
  let (digits, cs) := readDigits flags cs.length [] (cs.dropWhile Text.isWhiteSpace)
  let rest := cs.dropWhile Text.isWhiteSpace
  let rest := if rest.length < cs.length then flags.skip rest else rest
  let n := digits.foldl (fun n c ↦ 10 * n + (c.toNat - 0x30)) 0
  let count := if digits.isEmpty then .error .countMissing
    else if countLimit < n then .error .countTooLarge
    else .ok n
  (count, rest)

/-- Read the bounds of a counted repetition, behind its opening brace, with the closing one. -/
def readBounds (flags : Flags) (cs : List Char) : Except Fault (Nat × Option Nat × List Char) := do
  let cs := flags.skip cs
  if cs.isEmpty then throw .countUnclosed
  let (first, cs) := readCount flags cs
  match cs with
  | [] => throw .countUnclosed
  | ',' :: rest =>
    match flags.skip rest with
    | [] => throw .countUnclosed
    | '\x7d' :: rest => return (← first, none, rest)
    | cs =>
      let least ← first
      let (last, cs) := readCount flags cs
      let most ← last
      match cs with
      | '\x7d' :: rest => return (least, some most, rest)
      | _ => throw .countUnclosed
  | cs =>
    let n ← first
    match cs with
    | '\x7d' :: rest => return (n, some n, rest)
    | _ => throw .countUnclosed

/-- Drop the mark that makes a repetition prefer few rounds: it does not change what is described.
-/
def dropLazyMark : List Char → List Char
  | '?' :: rest => rest
  | cs => cs

/-! ### Groups -/

/-- The letters of the flags. -/
def flagLetters : List Char := "imsUuRx".toList

/-- Read flags up to `:` or `)`; `seen` holds those read, the last one first. -/
def readFlags (seen : List Char) : List Char → Except Fault (List Char × List Char)
  | [] => .error .flagUnfinished
  | c :: rest =>
    if c = ':' || c = ')' then
      if seen.head? = some '-' then .error .flagNegationDangling else .ok (seen.reverse, c :: rest)
    else if c = '-' then
      if seen.contains '-' then .error .flagNegationTwice else readFlags (c :: seen) rest
    else if !flagLetters.contains c then .error .flagUnknown
    else if seen.contains c then .error .flagTwice
    else readFlags (c :: seen) rest

/-- The flags after those that were read; the ones behind `-` are switched off. -/
def Flags.set (flags : Flags) (letters : List Char) : Flags :=
  let put (on : Bool) (flags : Flags) (c : Char) : Flags :=
    match c with
    | 'i' => { flags with caseless := on }
    | 'm' => { flags with lines := on }
    | 's' => { flags with dotAll := on }
    | 'R' => { flags with anyNewline := on }
    | 'x' => { flags with spaced := on }
    | _ => flags
  let on := letters.takeWhile (· != '-')
  (letters.drop (on.length + 1)).foldl (put false) (on.foldl (put true) flags)

/-- Whether the character may stand in the name of a group, at its start or later. -/
def isNameCharacter (first : Bool) (c : Char) : Bool :=
  c == '_' || Text.isAlphabetic c ||
    (!first && (c == '.' || c == '[' || c == ']' || Text.isNumber c))

/-- Read the name of a group and the bracket that closes it. -/
def readGroupName (names : List (List Char)) (cs : List Char) :
    Except Fault (List Char × List Char) := do
  if cs.isEmpty then throw .groupNameUnfinished
  let name := cs.takeWhile (· != '>')
  let valid := match name with
    | [] => true
    | c :: rest => isNameCharacter true c && rest.all (isNameCharacter false)
  if !valid then throw .groupNameInvalid
  match cs.drop name.length with
  | [] => throw .groupNameUnfinished
  | _ :: rest =>
    if name.isEmpty then throw .groupNameEmpty
    if names.contains name then throw .groupNameTwice
    return (name, rest)

/-- What an opening parenthesis starts. -/
inductive Opening
  /-- New flags for the rest of the group it stands in. -/
  | flags (letters : List Char)
  /-- A group with flags and, if it has one, a name. -/
  | group (letters : List Char) (name : Option (List Char))

/-- Read what follows an opening parenthesis, up to the first item of the group. -/
def readOpening (flags : Flags) (names : List (List Char)) (cs : List Char) :
    Except Fault (Opening × List Char) := do
  let named (cs : List Char) := do
    let (name, rest) ← readGroupName names cs
    return (.group [] (some name), rest)
  match flags.skip cs with
  | '?' :: '=' :: _ | '?' :: '!' :: _ | '?' :: '<' :: '=' :: _ | '?' :: '<' :: '!' :: _ =>
    throw .lookAround
  | '?' :: 'P' :: '<' :: rest => named rest
  | '?' :: '<' :: rest => named rest
  | '?' :: [] => throw .groupUnclosed
  | '?' :: rest =>
    let (letters, rest) ← readFlags [] rest
    match rest with
    | ')' :: rest =>
      if letters.isEmpty then throw .nothingToRepeat else return (.flags letters, rest)
    | rest => return (.group letters none, rest.drop 1)
  | cs => return (.group [] none, cs)

/-! ### Sequences and alternatives -/

/-- An item of a sequence: an expression, or nothing where flags are set. -/
abbrev Item := Option (Part Expr)

/-- The expression of a sequence. -/
def seqAll : List Expr → Expr
  | [] => .empty
  | [e] => e
  | e :: rest => .seq e (seqAll rest)

/-- The expression of a choice. -/
def altAll : List Expr → Expr
  | [] => .empty
  | [e] => e
  | e :: rest => .alt e (altAll rest)

/-- Several parts, in order, as one part. More than one make a level of nesting. -/
def combine (f : List Expr → Expr) (parts : List (Part Expr)) : Part Expr where
  value := f (parts.map (·.value))
  height := (parts.map (·.height)).foldl max 0 + (if 1 < parts.length then 1 else 0)
  fault := parts.findSome? (·.fault)

/-- The sequence of the items, which are held in reverse. -/
def sequence (items : List Item) : Part Expr :=
  combine seqAll (items.reverse.map (·.getD { value := .empty }))

/-- The choice between the branches, which are held in reverse. -/
def choice (branches : List (Part Expr)) : Part Expr :=
  combine altAll branches.reverse

/-- The last item, repeated. -/
def repeatLast (least : Nat) (most : Option Nat) : List Item → Except Fault (List Item)
  | some part :: items => .ok (some (part.nest (.times least most)) :: items)
  | _ => .error .nothingToRepeat

/-- The expression of an item outside of classes. -/
def Atom.toExpr (flags : Flags) : Atom → Expr
  | literal c => .char ((CharSet.single c).ignoringCase flags.caseless)
  | set s => .char s
  | place p => .place p

/-- What `.` stands for. -/
def Flags.anyCharacter (flags : Flags) : CharSet :=
  .allBut (if flags.dotAll then [] else if flags.anyNewline then ['\n', '\r'] else ['\n'])

/-- What `^` stands for. -/
def Flags.start (flags : Flags) : Place :=
  if !flags.lines then .textStart else if flags.anyNewline then .anyLineStart else .lineStart

/-- What `$` stands for. -/
def Flags.finish (flags : Flags) : Place :=
  if !flags.lines then .textEnd else if flags.anyNewline then .anyLineEnd else .lineEnd

/-- Read alternatives up to the end of the group or, outside of groups, of the text. Also gives the
names of all groups so far. -/
def readAlternatives : Nat → Bool → Flags → List (List Char) → List (Part Expr) → List Item →
    List Char → Except Fault (Part Expr × List (List Char) × List Char)
  | 0, _, _, _, _, _, _ => .error .groupUnclosed
  | fuel + 1, inGroup, flags, names, branches, items, cs =>
    let next (items : List Item) (rest : List Char) :=
      readAlternatives fuel inGroup flags names branches items rest
    let push (e : Expr) (rest : List Char) := next (some { value := e } :: items) rest
    let all := choice (sequence items :: branches)
    match flags.skip cs with
    | [] =>
      if inGroup then .error .groupUnclosed else .ok (all, names, [])
    | ')' :: rest =>
      if inGroup then .ok (all, names, rest) else .error .groupUnopened
    | '(' :: rest => do
      match ← readOpening flags names rest with
      | (.flags letters, rest) =>
        readAlternatives fuel inGroup (flags.set letters) names branches (none :: items) rest
      | (.group letters name, rest) =>
        let names := name.elim names (· :: names)
        let (part, names, rest) ←
          readAlternatives fuel true (flags.set letters) names [] [] rest
        readAlternatives fuel inGroup flags names branches (some (part.nest id) :: items) rest
    | '|' :: rest =>
      readAlternatives fuel inGroup flags names (sequence items :: branches) [] rest
    | '[' :: rest => do
      let (part, rest) ← readClass flags rest
      next (some { part with value := .char part.value } :: items) rest
    | '?' :: rest => do next (← repeatLast 0 (some 1) items) (dropLazyMark rest)
    | '*' :: rest => do next (← repeatLast 0 none items) (dropLazyMark rest)
    | '+' :: rest => do next (← repeatLast 1 none items) (dropLazyMark rest)
    | '\x7b' :: rest => do
      let _ ← repeatLast 0 none items
      let (least, most, rest) ← readBounds flags rest
      if most.any (· < least) then throw .countReversed
      next (← repeatLast least most items) (dropLazyMark (flags.skip rest))
    | '\\' :: rest => do
      let (part, rest) ← readEscape flags rest
      next (some { part with value := part.value.toExpr flags } :: items) rest
    | '.' :: rest => push (.char flags.anyCharacter) rest
    | '^' :: rest => push (.place flags.start) rest
    | '$' :: rest => push (.place flags.finish) rest
    | c :: rest => push ((Atom.literal c).toExpr flags) rest

/-- The expression that a text stands for. -/
def Expr.read (cs : List Char) : Except Fault Expr := do
  let (part, _, _) ← readAlternatives (cs.length + 1) false {} [] [] [] cs
  if nestLimit < part.height then throw .nestedTooDeep
  match part.fault with
  | some fault => throw fault
  | none => return part.value

end LiveFind.Pattern
