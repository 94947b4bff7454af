import LiveFind.Findable
import LiveFind.Json.Printer
import LiveFind.Json.Record
import LiveFind.Json.Typed

/-!
# Nodes

The nodes of a workflow canvas. Two nodes are the same if their identifiers are, whatever they show.
Main definitions: the text in which a node is searched, and its JSON form with the reader for it.
-/

namespace LiveFind

/-- A node on the canvas. -/
structure Node where
  /-- The identifier of this node, such as `node:42`. -/
  id : String
  /-- What kind of node it is, such as `row-filter`. -/
  kind : String
  /-- The name shown on the canvas. -/
  label : String
  /-- The note below the node, if there is one. -/
  note : Option String := none
  /-- The settings of the node. -/
  data : Json := .null
deriving Repr, Inhabited

namespace Node

instance : BEq Node where
  beq a b := a.id == b.id

instance : Hashable Node where
  hash a := hash a.id

theorem beq_iff {a b : Node} : (a == b) = true ↔ a.id = b.id :=
  beq_iff_eq (α := String)

instance : EquivBEq Node where
  rfl := beq_iff.2 rfl
  symm h := beq_iff.2 (beq_iff.1 h).symm
  trans h₁ h₂ := beq_iff.2 ((beq_iff.1 h₁).trans (beq_iff.1 h₂))

instance : LawfulHashable Node where
  hash_eq a b h := congrArg (hash : String → UInt64) (beq_iff.1 h : a.id = b.id)

/-- The texts of a node that people search in. -/
def searchFields (a : Node) : List String :=
  a.label :: a.kind :: a.note.toList

instance : Findable Node where
  identifier a := a.id
  searchText a := " ".intercalate a.searchFields

/-! ### JSON -/

/-- The members of the JSON form. A note that is not there has none. -/
def members (a : Node) : List (String × Json) :=
  [("id", .str a.id), ("nodeType", .str a.kind), ("label", .str a.label)] ++
    a.note.toList.map (fun note ↦ ("annotation", .str note)) ++ [("data", a.data)]

/-- The JSON form of a node, its members in the order in which they are written. -/
def toJson (a : Node) : Json :=
  .obj a.members

/-- The compact JSON text of a node. -/
def toText (a : Node) : String :=
  a.toJson.toText

/-- The fields met so far while a node is read. -/
structure Draft where
  id : Option String := none
  kind : Option String := none
  label : Option String := none
  note : Option (Option String) := none
  data : Option Json := none

/-- The field that has to be there. -/
def Draft.require {α : Type} (name : String) : Option α → Except Json.Fault α
  | some a => .ok a
  | none => .error (.missingField name)

/-- The node with the fields of the draft. -/
def Draft.finish (d : Draft) : Except Json.Fault Node := do
  let id ← require "id" d.id
  let kind ← require "nodeType" d.kind
  let label ← require "label" d.label
  return { id, kind, label, note := d.note.getD none, data := d.data.getD .null }

/-- How a node is named in messages. -/
def recordName : String := "struct WorkflowNode"

/-- How the array form of a node is named in messages. -/
def itemsName : String := recordName ++ " with 5 elements"

/-- The levels that the data of a node may nest, the node itself being one level. -/
def dataNestLimit : Nat := Json.nestLimit - 1

/-- Take one member of the JSON form. -/
def Draft.member (fuel : Nat) (d : Draft) (key : String) (cs : List Char) :
    Except Json.Fault (Draft × List Char) :=
  match key with
  | "id" => Json.fillField key d.id (fun s ↦ { d with id := some s }) (Json.readStringField fuel) cs
  | "nodeType" =>
    Json.fillField key d.kind (fun s ↦ { d with kind := some s }) (Json.readStringField fuel) cs
  | "label" =>
    Json.fillField key d.label (fun s ↦ { d with label := some s }) (Json.readStringField fuel) cs
  | "annotation" =>
    Json.fillField key d.note (fun s ↦ { d with note := some s })
      (Json.readOptionalStringField fuel) cs
  | "data" =>
    Json.fillField key d.data (fun j ↦ { d with data := some j })
      (Json.readValue fuel dataNestLimit) cs
  | _ => (Json.skipMember fuel cs).map (d, ·)

/-- Read the fields of a node from an array. The last two may be missing. -/
def readItems (fuel : Nat) (cs : List Char) : Except Json.Fault (Node × List Char) := do
  let required (length : Nat) (s : Option String) : Except Json.Fault String :=
    s.elim (.error (.invalidLength length itemsName)) .ok
  let (id, cs) ← Json.nextField true (Json.readStringField fuel) cs
  let id ← required 0 id
  let (kind, cs) ← Json.nextField false (Json.readStringField fuel) cs
  let kind ← required 1 kind
  let (label, cs) ← Json.nextField false (Json.readStringField fuel) cs
  let label ← required 2 label
  let (note, cs) ← Json.nextField false (Json.readOptionalStringField fuel) cs
  let (data, cs) ← Json.nextField false (Json.readValue fuel dataNestLimit) cs
  return ({ id, kind, label, note := note.getD none, data := data.getD .null }, cs)

/-- How a node is read. -/
def record : Json.Record Draft Node where
  expected := recordName
  empty := {}
  member := Draft.member
  items := readItems
  finish := Draft.finish

/-- Take one member of a value. -/
def Draft.take (d : Draft) (member : String × Json) : Except Json.Fault Draft :=
  let (key, value) := member
  match key with
  | "id" => value.asString.map fun s ↦ { d with id := some s }
  | "nodeType" => value.asString.map fun s ↦ { d with kind := some s }
  | "label" => value.asString.map fun s ↦ { d with label := some s }
  | "annotation" => value.asOptionalString.map fun s ↦ { d with note := some s }
  | "data" => .ok { d with data := some value }
  | _ => .ok d

/-- The node that a JSON value stands for. -/
def ofJson : Json → Except Json.Fault Node
  | .obj members => do (← members.foldlM Draft.take {}).finish
  | .arr items => do
    let required (place : Nat) : Except Json.Fault String :=
      items[place]?.elim (.error (.invalidLength place itemsName)) Json.asString
    let id ← required 0
    let kind ← required 1
    let label ← required 2
    let note ← items[3]?.mapM Json.asOptionalString
    if 5 < items.length then throw (.invalidLength items.length Json.fewerItems)
    return { id, kind, label, note := note.getD none, data := items[4]?.getD .null }
  | j => .error (.invalidType j.found recordName)

/-- Read a node from a JSON text. -/
def ofText (s : String) : Except Json.Fault Node :=
  record.readText s.toList

end Node

end LiveFind
