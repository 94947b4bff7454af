import LiveFind.Change
import LiveFind.Query
import LiveFind.Text.Quoted

/-!
# Notes

What a search puts on record while it runs, each note with its level and its wording.
-/

namespace LiveFind

/-- A note of something that happened. -/
inductive Note
  /-- A search ended with so many hits. -/
  | searched (query : Query) (hits : Nat)
  | removalDropped (identifier : String)
  | additionDropped (identifier : String)
  /-- An item left its place in the hits; the cursor is at its new place. -/
  | removed (identifier : String) (index : Nat) (cursor : Int)
  | appended (identifier : String)
  /-- The hits of a query follow a feed from now on. -/
  | following (text : String) (subscription : Nat)
  /-- The delivery from a feed came to its end. -/
  | deliveryEnded (text : String) (subscription : Nat)
  /-- The hits were retired and follow the feed no more. -/
  | released (text : String) (subscription : Nat)
  /-- Nobody reads a subscription any more. -/
  | readerGone (subscription : Nat)
  /-- The settings were saved in this file. -/
  | settingsSaved (path : String)
deriving Repr, DecidableEq

namespace Note

/-- How much a note matters. -/
def level : Note → String
  | following .. | released .. | settingsSaved .. => "INFO"
  | readerGone .. => "WARN"
  | _ => "DEBUG"

/-- The wording of a note. -/
def message : Note → String
  | searched q n =>
    "Search '" ++ q.text ++ "' (" ++ q.mode.name ++ ") found " ++ toString n ++ " results"
  | removalDropped id => "Dropping removal of " ++ id ++ " after teardown"
  | additionDropped id => "Dropping addition of " ++ id ++ " after teardown"
  | removed id index cursor =>
    "Removed search result " ++ id ++ " at " ++ toString index ++
      " (cursor now " ++ toString cursor ++ ")"
  | appended id => "Appending search result " ++ id
  | following text n =>
    "Search results for '" ++ text ++ "' attached to change feed (subscription " ++
      toString n ++ ")"
  | deliveryEnded text n =>
    "Change feed dispatch for '" ++ text ++ "' ended (subscription " ++ toString n ++ ")"
  | released text n =>
    "Search results for '" ++ text ++ "' detached (subscription " ++ toString n ++ ")"
  | readerGone n => "Dropping closed change feed subscriber " ++ toString n
  | settingsSaved path => "Search configuration saved to " ++ Text.quoted path

/-- The line of a note: its level and its wording. -/
def line (n : Note) : String :=
  n.level ++ " " ++ n.message

/-- What a change leaves on record, given what it did and where the cursor is afterwards. -/
def ofOutcome {α : Type} [Findable α] (cursor : Int) : Change α → Outcome → List Note
  | .removed a, .dropped => [removalDropped (Findable.identifier a)]
  | .added a, .dropped => [additionDropped (Findable.identifier a)]
  | .removed a, .removed index _ => [removed (Findable.identifier a) index cursor]
  | .added a, .appended _ => [appended (Findable.identifier a)]
  | _, _ => []

end Note

end LiveFind
