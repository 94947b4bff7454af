import LiveFind.Findable
import LiveFind.Pattern
import LiveFind.Text.Lowercase
import LiveFind.Text.Occurs
import Std.Data.HashSet

/-!
# Queries

A query is a text in lower case and the way it is looked for: in the identifiers of items if it
looks like one, and otherwise in their texts. `select` gives the items of a collection that a query
accepts.
-/

namespace LiveFind

/-- Where a query is looked for. -/
inductive Mode
  | identifier
  | text
deriving Repr, DecidableEq

/-- The name of a mode in log lines. -/
def Mode.name : Mode → String
  | identifier => "Identifier"
  | text => "Attribute"

/-- The text of an item that a query with this mode is compared with. -/
def Mode.textOf {α : Type} [Findable α] (m : Mode) (a : α) : String :=
  match m with
  | .identifier => Findable.identifier a
  | .text => Findable.searchText a

/-- A text to find, in lower case, and where to look for it. -/
structure Query where
  text : String
  mode : Mode
deriving Repr, DecidableEq

namespace Query

/-- The mode of a text in lower case: what has the form of an identifier is looked for among
identifiers. -/
def modeOf (p : Pattern) (text : String) : Mode :=
  if p.occursIn text then .identifier else .text

/-- The query for a text as it was typed. -/
def ofText (p : Pattern) (raw : String) : Query :=
  { text := Text.lower raw, mode := modeOf p (Text.lower raw) }

variable {α : Type} [Findable α]

/-- Whether the query occurs in the item, whatever the case. -/
def accepts (q : Query) (a : α) : Bool :=
  Text.contains (Text.lower (q.mode.textOf a)) q.text

variable [BEq α] [Hashable α]

/-- The items that are not among those seen and equal no earlier item of the list. -/
def dropSeen (seen : Std.HashSet α) : List α → List α
  | [] => []
  | a :: rest => if seen.contains a then dropSeen seen rest else a :: dropSeen (seen.insert a) rest

/-- The items that the query accepts, in their order; of equal ones the first. -/
def select (q : Query) (items : List α) : List α :=
  dropSeen ∅ (items.filter q.accepts)

end Query

end LiveFind
