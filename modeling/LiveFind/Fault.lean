import LiveFind.Settings.Folder

/-!
# What can go wrong

Why a search cannot be set up, stepped through or kept up to date, with the wording of each case.
-/

namespace LiveFind

/-- Why something asked of a search was refused. -/
inductive Fault
  /-- The start index is not one of the list of matches, which has this length. -/
  | startOutOfRange (index length : Nat)
  /-- There are no hits to step through. -/
  | noHits
  /-- The hits already follow a feed. -/
  | alreadyFollowing
  /-- The hits were retired. -/
  | retired
  /-- The text for identifiers is not a pattern. -/
  | pattern (fault : Pattern.Fault)
  /-- The feed takes no more subscriptions. -/
  | feedClosed
  /-- The settings could not be loaded or saved. -/
  | settings (fault : Settings.Fault)
  /-- A subscription cannot hold back as many changes as the feed asks for. -/
  | bufferTooLarge
  /-- The place in the hits is none of theirs. -/
  | placeOutOfRange (index length : Nat)
deriving Repr, DecidableEq

/-- How many changes a subscription can hold back at most. -/
def bufferLimit : Nat := 0x1fffffffffffffff

/-- The wording of a fault. -/
def Fault.message : Fault → String
  | startOutOfRange index length =>
    "Invalid start index " ++ toString index ++ " for " ++ toString length ++ " search results"
  | noHits => "Search result set is empty"
  | alreadyFollowing => "Search results are already attached to a change feed"
  | retired => "Search results have been disposed"
  | pattern fault => "Invalid identifier pattern: regex parse error: error: " ++ fault.message
  | feedClosed => "Change feed closed"
  | settings fault => "Configuration error: " ++ fault.message
  | bufferTooLarge =>
    "a semaphore may not have more than MAX_PERMITS permits (" ++ toString bufferLimit ++ ")"
  | placeOutOfRange index length =>
    "index out of bounds: the len is " ++ toString length ++ " but the index is " ++ toString index

end LiveFind
