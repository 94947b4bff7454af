import LiveFind.Schedule

/-!
# Commands and replies

What can be asked of a session, by name, and what it answers.
-/

namespace LiveFind

/-- The spaces of names. -/
inductive Kind
  | finder
  | feed
  | subscription
  | view
  | broadcast
deriving Repr, DecidableEq

/-- How large the mailboxes of a new feed are. -/
inductive FeedSize
  | standard
  | room (capacity : Nat)
  /-- As settings say. -/
  | settings (value : Json)
deriving Repr

/-- A command of a session. -/
inductive Command (α : Type)
  | new (name : String) (matched : List α) (start : Nat) (raw : String) (pattern : Option String)
  | search (name : String) (collection : List α) (raw : String) (pattern : Option String)
  | next (finder : String)
  | previous (finder : String)
  | current (finder : String)
  | apply (finder : String) (change : Change α) (view : Option String)
  | follow (finder feed : String) (view : Option String)
  | retire (finder : String)
  | drop (finder : String)
  | openFeed (name : String) (size : FeedSize)
  | closeFeed (feed : String)
  | subscribe (feed name : String)
  | unsubscribe (feed : String) (number : Nat)
  | discard (subscription : String)
  | receive (subscription : String)
  /-- Broadcast a change and wait, or let the broadcast work in the background under a name. -/
  | announce (feed : String) (change : Change α) (background : Option String)
  | poll (broadcast : String)
  | cancel (broadcast : String)
  | openView (name : String)
  /-- Another name for the same view. -/
  | shareView (view name : String)
  | closeView (view : String)
  | viewClosed (view : Option String)
  | settle

/-- The reply to a command. -/
inductive Reply (α : Type)
  | done
  | query (q : Query)
  | item (a : α)
  | current (a : Option α)
  | outcome (o : Outcome)
  | capacity (n : Nat)
  | subscribed (number : Nat)
  | receipt (r : Receipt α)
  | delivery (d : Schedule.Delivery)
  | inBackground
  | pending
  | closed (b : Bool)
  | refused (fault : Fault)
  | unreadable (fault : Json.Fault)
  | unknown (kind : Kind)

end LiveFind
