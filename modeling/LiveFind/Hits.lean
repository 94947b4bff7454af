import LiveFind.Change
import LiveFind.Fault
import LiveFind.Query

/-!
# Hits

The hits of a search in their order, without equal ones, and a cursor on the one shown last. The
hits form a ring: stepping forward from the last one leads to the first. Changes of the searched
collection keep them up to date, and the cursor stays on its item while others come and go.
-/

namespace LiveFind

/-- The hits of a query. -/
structure Hits (α : Type) [BEq α] [Hashable α] where
  query : Query
  /-- The hits in order. -/
  items : List α
  /-- The same hits as a set. -/
  members : Std.HashSet α
  /-- The index of the hit shown last, or -1 if none is. -/
  cursor : Int
  /-- Whether the hits no longer take part in changes. -/
  retired : Bool

namespace Hits

variable {α : Type} [BEq α] [Hashable α]

/-- Hits that nobody has changed yet. -/
def ofItems (query : Query) (items : List α) (cursor : Int) : Hits α :=
  { query, items, members := Std.HashSet.ofList items, cursor, retired := false }

/-- The hits of a list of matches, the one at `start` being shown. Of equal matches the first is
kept. An empty list has only the start index 0. -/
def ofMatches (query : Query) (items : List α) (start : Nat) : Except Fault (Hits α) :=
  match items[start]? with
  | some shown =>
    let kept := Query.dropSeen ∅ items
    .ok (ofItems query kept ((kept.findIdx? (· == shown)).getD 0 : Nat))
  | none =>
    if items.isEmpty ∧ start = 0 then .ok (ofItems query [] (-1))
    else .error (.startOutOfRange start items.length)

/-- The hits of a query in a collection, with none shown. -/
def ofSearch [Findable α] (query : Query) (collection : List α) : Hits α :=
  ofItems query (query.select collection) (-1)

/-! ### Stepping -/

/-- The hit shown last. -/
def current? (h : Hits α) : Option α :=
  if h.cursor < 0 then none else h.items[h.cursor.toNat]?

/-- Show the hit at an index. -/
def moveTo (h : Hits α) (index : Nat) : Except Fault (α × Hits α) :=
  match h.items[index]? with
  | some a => .ok (a, { h with cursor := index })
  | none => .error (.placeOutOfRange index h.items.length)

/-- Show the hit after the one shown last. -/
def next (h : Hits α) : Except Fault (α × Hits α) :=
  if h.items.isEmpty then .error .noHits
  else h.moveTo (if h.cursor + 1 < h.items.length then (h.cursor + 1).toNat else 0)

/-- Show the hit before the one shown last. -/
def previous (h : Hits α) : Except Fault (α × Hits α) :=
  if h.items.isEmpty then .error .noHits
  else h.moveTo (if 0 < h.cursor then (h.cursor - 1).toNat else h.items.length - 1)

/-! ### Changes -/

/-- Take an item out. The cursor moves back if its item, or one before it, is the one. -/
def remove (h : Hits α) (a : α) : Outcome × Hits α :=
  if h.members.contains a then
    let members := h.members.erase a
    match h.items.findIdx? (· == a) with
    | none => (.ignored, { h with members })
    | some index =>
      ( .removed index ((index : Int) == h.cursor)
      , { h with
          members
          items := h.items.eraseIdx index
          cursor := if (index : Int) ≤ h.cursor then h.cursor - 1 else h.cursor } )
  else (.ignored, h)

/-- Put an item at the end, if the query accepts it and it is not there yet. -/
def add [Findable α] (h : Hits α) (a : α) : Outcome × Hits α :=
  if !h.query.accepts a || h.members.contains a then (.ignored, h)
  else
    (.appended h.items.length, { h with members := h.members.insert a, items := h.items ++ [a] })

/-- Apply a change for a view. Once the hits are retired or the view is closed, items that come or
go are dropped. -/
def apply [Findable α] (viewClosed : Bool) (h : Hits α) (c : Change α) : Outcome × Hits α :=
  match c with
  | .removed a => if h.retired || viewClosed then (.dropped, h) else h.remove a
  | .added a => if h.retired || viewClosed then (.dropped, h) else h.add a
  | .other => (.ignored, h)

/-- Take no part in changes any more. -/
def retire (h : Hits α) : Hits α :=
  { h with retired := true }

end Hits

end LiveFind
