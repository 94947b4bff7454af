/-!
# Changes of a collection

What happens to the collection that is searched, and what a change does to the hits of a search.
-/

namespace LiveFind

/-- A change of the searched collection. -/
inductive Change (α : Type)
  | added (a : α)
  | removed (a : α)
  /-- Anything else, such as a move or another name. -/
  | other
deriving Repr, DecidableEq

/-- What a change did to the hits. -/
inductive Outcome
  /-- The item was put at the end, at this index. -/
  | appended (index : Nat)
  /-- The item at this index was taken out; it may have been the one shown last. -/
  | removed (index : Nat) (wasCurrent : Bool)
  /-- The change does not concern the hits. -/
  | ignored
  /-- The hits are retired or their view is closed, so nothing was looked at. -/
  | dropped
deriving Repr, DecidableEq

end LiveFind
