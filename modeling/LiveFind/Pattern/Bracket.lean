import LiveFind.Pattern.Escape

/-!
# Bracketed classes

A class in brackets is a union of items: characters, ranges, escapes, named ASCII classes and
further brackets. The operators `&&`, `--` and `~~` combine whole unions, from the left.
-/

namespace LiveFind.Pattern

/-- An operator between the unions of a bracketed class. -/
inductive SetOperator
  | inter
  | diff
  | symmDiff
deriving Repr, DecidableEq

/-- The set that an operator makes; where case does not matter, of all case variants of both sides.
-/
def SetOperator.apply (flags : Flags) (op : SetOperator) (a b : CharSet) : CharSet :=
  let a := a.ignoringCase flags.caseless
  let b := b.ignoringCase flags.caseless
  match op with
  | inter => .inter a b
  | diff => .diff a b
  | symmDiff => .symmDiff a b

/-- The items of a union, the last one first. -/
abbrev Items := List (Part CharSet)

/-- The union of the items. One item is no level of nesting, several are. -/
def unite (items : Items) : Part CharSet :=
  match items.reverse with
  | [] => { value := .empty }
  | [item] => item
  | item :: rest => (rest.foldl (Part.join .union) item).nest id

/-- A union with the operator that stands before it, if there is one. -/
def applyPending (flags : Flags) (pending : Option (SetOperator × Part CharSet)) (items : Items) :
    Part CharSet :=
  match pending with
  | none => unite items
  | some (op, left) => (left.join (op.apply flags) (unite items)).nest id

/-- Read `[:name:]`, which starts at its bracket; anything else is no such class. -/
def readNamedClass? : List Char → Option (Bool × CharClass × List Char)
  | '[' :: ':' :: rest =>
    let (negated, rest) := match rest with
      | '^' :: rest => (true, rest)
      | _ => (false, rest)
    let name := rest.takeWhile (· != ':')
    match rest.drop name.length with
    | ':' :: ']' :: rest => (CharClass.ofBracketName? name).map fun k ↦ (negated, k, rest)
    | _ => none
  | _ => none

/-- Read the dashes that a class may start with, which stand for themselves. -/
def readDashes (flags : Flags) : Nat → Items → List Char → Items × List Char
  | fuel + 1, items, '-' :: rest =>
    readDashes flags fuel ({ value := .single '-' } :: items) (flags.skip rest)
  | _, items, cs => (items, cs)

/-- Read the start of a class, behind its bracket: a negation, dashes, and a bracket that stands for
itself because the class would be empty without it. -/
def readClassStart (flags : Flags) (cs : List Char) : Except Fault (Bool × Items × List Char) := do
  let cs := flags.skip cs
  let (negated, cs) := match cs with
    | '^' :: rest => (true, flags.skip rest)
    | _ => (false, cs)
  let (items, cs) := readDashes flags cs.length [] cs
  let (items, cs) : Items × List Char := match items, cs with
    | [], ']' :: rest => ([{ value := .single ']' }], flags.skip rest)
    | _, _ => (items, cs)
  if cs.isEmpty then throw Fault.classUnclosed
  return (negated, items, cs)

/-- Read one character or escape of a class. -/
def readClassAtom (flags : Flags) : List Char → Except Fault (Part Atom × List Char)
  | [] => .error .classUnclosed
  | '\\' :: rest => readEscape flags rest
  | c :: rest => .ok ({ value := .literal c }, rest)

/-- The set of an item that is no range. -/
def Atom.toSet : Atom → Except Fault CharSet
  | literal c => .ok (.single c)
  | set s => .ok s
  | place _ => .error .classEscapeInvalid

/-- The character of an item that bounds a range. -/
def Atom.toBound : Atom → Except Fault Char
  | literal c => .ok c
  | _ => .error .classRangeNotLiteral

/-- Read an item or a range. A dash before a closing bracket or another dash makes no range. -/
def readRange (flags : Flags) (cs : List Char) : Except Fault (Part CharSet × List Char) := do
  let (first, cs) ← readClassAtom flags cs
  let cs := flags.skip cs
  match cs with
  | [] => throw .classUnclosed
  | '-' :: rest =>
    match flags.skip rest with
    | [] => throw .classUnclosed
    | c :: rest =>
      if c = ']' || c = '-' then
        let s ← first.value.toSet
        return ({ first with value := s }, cs)
      else
        let (last, cs) ← readClassAtom flags (c :: rest)
        let lo ← first.value.toBound
        let hi ← last.value.toBound
        if hi < lo then throw .classRangeReversed
        return ({ value := .range lo hi }, cs)
  | _ =>
    let s ← first.value.toSet
    return ({ first with value := s }, cs)

/-- Read a class from behind its start up to and with its closing bracket. -/
def readClassBody (flags : Flags) (negated : Bool) :
    Nat → Option (SetOperator × Part CharSet) → Items → List Char →
      Except Fault (Part CharSet × List Char)
  | 0, _, _, _ => .error .classUnclosed
  | fuel + 1, pending, items, cs =>
    let operator (op : SetOperator) (rest : List Char) :=
      readClassBody flags negated fuel (some (op, applyPending flags pending items)) [] rest
    match flags.skip cs with
    | [] => .error .classUnclosed
    | ']' :: rest =>
      let close (s : CharSet) := (s.ignoringCase flags.caseless).negatedIf negated
      .ok ((applyPending flags pending items).nest close, rest)
    | '&' :: '&' :: rest => operator .inter rest
    | '-' :: '-' :: rest => operator .diff rest
    | '~' :: '~' :: rest => operator .symmDiff rest
    | '[' :: rest =>
      match readNamedClass? ('[' :: rest) with
      | some (negated', k, rest) =>
        let s := ((CharSet.named k).ignoringCase flags.caseless).negatedIf negated'
        readClassBody flags negated fuel pending ({ value := s } :: items) rest
      | none => do
        let (negated', items', cs) ← readClassStart flags rest
        let (inner, cs) ← readClassBody flags negated' fuel none items' cs
        readClassBody flags negated fuel pending (inner :: items) cs
    | cs => do
      let (item, cs) ← readRange flags cs
      readClassBody flags negated fuel pending (item :: items) cs

/-- Read a bracketed class, behind its bracket. -/
def readClass (flags : Flags) (cs : List Char) : Except Fault (Part CharSet × List Char) := do
  let (negated, items, cs) ← readClassStart flags cs
  readClassBody flags negated (cs.length + 1) none items cs

end LiveFind.Pattern
