/-!
# What can be searched for

An item has an identifier, which stays the same for good, and a text, which people search in.
Equality of items, where it is asked for, is that of identity: it may leave the text out.
-/

namespace LiveFind

/-- Items that can be found by identifier or by text. -/
class Findable (α : Type) where
  /-- The text that stands for the item in a search by identifier. -/
  identifier : α → String
  /-- The text in which the item is searched otherwise. -/
  searchText : α → String

end LiveFind
