import LiveFind.Json.Printer
import LiveFind.Json.Record
import LiveFind.Json.Typed
import LiveFind.Pattern

/-!
# Settings

What can be set for searches: the pattern for identifiers and the size of the buffers. Settings are
written as a record on several lines; each field that a text leaves out has its default.
-/

namespace LiveFind

/-- The settings of searches. -/
structure Settings where
  /-- The text of the pattern that a query in lower case must have to be looked for among
  identifiers. -/
  pattern : String := Pattern.defaultSource
  /-- How many changes a subscription holds back, as it was set. -/
  buffer : Nat := 256
deriving Repr, DecidableEq

namespace Settings

/-- The buffer size in use: there is always room for one change. -/
def effectiveBuffer (s : Settings) : Nat :=
  max s.buffer 1

/-- The pattern that the settings ask for. -/
def compile (s : Settings) : Except Pattern.Fault Pattern :=
  Pattern.ofText s.pattern

/-! ### JSON -/

/-- The key of the pattern. -/
def patternKey : String := "idPattern"

/-- The key of the buffer size. -/
def bufferKey : String := "eventBufferSize"

/-- The text of the settings: a member a line, indented by two blanks. -/
def write (s : Settings) : List Char :=
  let member (key : String) (value : Json) :=
    ' ' :: ' ' :: Json.writeString key ++ ':' :: ' ' :: value.write
  '\x7b' :: '\n' :: member patternKey (.str s.pattern) ++
    ',' :: '\n' :: member bufferKey (.int s.buffer) ++ ['\n', '\x7d']

/-- The text of the settings. -/
def toText (s : Settings) : String :=
  String.ofList s.write

/-- The fields met so far while settings are read. -/
structure Draft where
  pattern : Option String := none
  buffer : Option Nat := none

/-- The settings with the fields of the draft, the others as they are by default. -/
def Draft.finish (d : Draft) : Settings :=
  let default : Settings := {}
  { pattern := d.pattern.getD default.pattern, buffer := d.buffer.getD default.buffer }

/-- Take one member of the JSON form. -/
def Draft.member (fuel : Nat) (d : Draft) (key : String) (cs : List Char) :
    Except Json.Fault (Draft × List Char) :=
  if key = patternKey then
    Json.fillField key d.pattern (fun s ↦ { d with pattern := some s })
      (Json.readStringField fuel) cs
  else if key = bufferKey then
    Json.fillField key d.buffer (fun n ↦ { d with buffer := some n })
      (Json.readSizeField fuel) cs
  else (Json.skipMember fuel cs).map (d, ·)

/-- Read the fields from an array; any of them may be missing at its end. -/
def readItems (fuel : Nat) (cs : List Char) : Except Json.Fault (Settings × List Char) := do
  let (pattern, cs) ← Json.nextField true (Json.readStringField fuel) cs
  let (buffer, cs) ← Json.nextField false (Json.readSizeField fuel) cs
  return (Draft.finish { pattern, buffer }, cs)

/-- How settings are named in messages. -/
def recordName : String := "struct SearchConfig"

/-- How settings are read. -/
def record : Json.Record Draft Settings where
  expected := recordName
  empty := {}
  member := Draft.member
  items := readItems
  finish d := .ok d.finish

/-- Read settings from a JSON text. -/
def ofText (s : String) : Except Json.Fault Settings :=
  record.readText s.toList

/-- Take one member of a value. -/
def Draft.take (d : Draft) (member : String × Json) : Except Json.Fault Draft :=
  let (key, value) := member
  if key = patternKey then value.asString.map fun s ↦ { d with pattern := some s }
  else if key = bufferKey then value.asSize.map fun n ↦ { d with buffer := some n }
  else .ok d

/-- The settings that a JSON value stands for. -/
def ofJson : Json → Except Json.Fault Settings
  | .obj members => (members.foldlM Draft.take {}).map Draft.finish
  | .arr items => do
    let pattern ← items[0]?.mapM Json.asString
    let buffer ← items[1]?.mapM Json.asSize
    if 2 < items.length then throw (.invalidLength items.length Json.fewerItems)
    return Draft.finish { pattern, buffer }
  | j => .error (.invalidType j.found recordName)

end Settings

end LiveFind
