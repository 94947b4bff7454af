import LiveFind.Change

/-!
# Feeds, mailboxes and broadcasts

Feeds hand every change on to all their subscriptions. Each subscription has a mailbox with room for
so many changes, and a broadcast waits at a full one: nothing is lost, and a slow reader holds the
broadcast up.

All objects of an exchange are kept for good and named by their index. What can be done with them,
step by step, is in the modules beside this one.
-/

namespace LiveFind

/-- A feed, by its index. -/
abbrev FeedId := Nat

/-- A mailbox, by its index. -/
abbrev MailboxId := Nat

/-- A broadcast, by its index. -/
abbrev BroadcastId := Nat

/-- A source of changes. -/
structure Feed where
  /-- How many changes each mailbox has room for. -/
  capacity : Nat
  /-- The subscriptions in the order in which they were made: their numbers and their mailboxes. -/
  subscribers : List (Nat × MailboxId) := []
  /-- The number of the next subscription. It is taken never to wrap around: 64 bits have a number
  for each of the first 2⁶⁴ - 1 attempts to subscribe. -/
  nextNumber : Nat := 1
  /-- Whether no more subscriptions are taken. -/
  closed : Bool := false
  /-- How many outside of the exchange hold on to the feed. -/
  holders : Nat := 1
deriving Repr, DecidableEq

/-- The changes that a subscription has not read yet. -/
structure Mailbox (α : Type) where
  feed : FeedId
  capacity : Nat
  /-- The changes in the order in which they came. -/
  queue : List (Change α) := []
  /-- The broadcasts that wait for room, in the order in which they came. -/
  waiting : List BroadcastId := []
  /-- Whether somebody reads the mailbox. -/
  hasReader : Bool := true
deriving Repr, DecidableEq

namespace Mailbox

variable {α : Type}

/-- How many more changes fit. -/
def room (m : Mailbox α) : Nat :=
  m.capacity - m.queue.length

/-- Whether a broadcast may put its change in: there is room beyond what those who came before it
wait for. -/
def admits (m : Mailbox α) (broadcast : BroadcastId) : Bool :=
  m.waiting.idxOf broadcast < m.room

/-- The mailbox with a change put in by a broadcast. -/
def push (m : Mailbox α) (broadcast : BroadcastId) (c : Change α) : Mailbox α :=
  { m with queue := m.queue ++ [c], waiting := m.waiting.erase broadcast }

/-- The mailbox with a broadcast waiting for room. -/
def await (m : Mailbox α) (broadcast : BroadcastId) : Mailbox α :=
  if m.waiting.contains broadcast then m else { m with waiting := m.waiting ++ [broadcast] }

/-- The mailbox with a broadcast waiting no more. -/
def forget (m : Mailbox α) (broadcast : BroadcastId) : Mailbox α :=
  { m with waiting := m.waiting.erase broadcast }

end Mailbox

/-- How far a broadcast is. -/
inductive Stage
  /-- Its subscriptions are not fixed yet. -/
  | fresh
  | sending
  | done
  | abandoned
deriving Repr, DecidableEq

/-- A change on its way to the subscriptions of a feed. -/
structure Broadcast (α : Type) where
  feed : FeedId
  change : Change α
  stage : Stage := .fresh
  /-- The subscriptions still to be served: their numbers and their mailboxes. -/
  targets : List (Nat × MailboxId) := []
  /-- How many subscriptions got the change. -/
  delivered : Nat := 0
  /-- The numbers of those whose reader was found gone. -/
  gone : List Nat := []
deriving Repr, DecidableEq

/-- Whether the broadcast has steps to take. -/
def Broadcast.running {α : Type} (b : Broadcast α) : Bool :=
  b.stage == .fresh || b.stage == .sending

/-- A subscription that was made: its number and its mailbox. -/
structure Subscription where
  number : Nat
  mailbox : MailboxId
deriving Repr, DecidableEq

/-- What reading a mailbox gives. -/
inductive Receipt (α : Type)
  | change (c : Change α)
  /-- There is nothing at the moment. -/
  | empty
  /-- There is nothing, and nobody is left who could send. -/
  | ended
deriving Repr, DecidableEq

/-- What a step of a broadcast came to. -/
inductive Progress
  /-- Something was done, and more may follow. -/
  | moved
  /-- The mailbox whose turn it is has no room. -/
  | waiting
  /-- There is nothing left to do. -/
  | finished
deriving Repr, DecidableEq

/-- All feeds, mailboxes and broadcasts. -/
structure Exchange (α : Type) where
  feeds : List Feed := []
  mailboxes : List (Mailbox α) := []
  broadcasts : List (Broadcast α) := []
deriving Repr, DecidableEq

namespace Exchange

variable {α : Type}

/-! ### Changing one object -/

/-- Change a feed. -/
def updateFeed (x : Exchange α) (feed : FeedId) (f : Feed → Feed) : Exchange α :=
  { x with feeds := x.feeds.modify feed f }

/-- Change a mailbox. -/
def updateMailbox (x : Exchange α) (mailbox : MailboxId) (f : Mailbox α → Mailbox α) : Exchange α :=
  { x with mailboxes := x.mailboxes.modify mailbox f }

/-- Change a broadcast. -/
def updateBroadcast (x : Exchange α) (broadcast : BroadcastId) (f : Broadcast α → Broadcast α) :
    Exchange α :=
  { x with broadcasts := x.broadcasts.modify broadcast f }

/-! ### Who can still send -/

/-- Whether somebody holds on to the feed, a broadcast included. -/
def feedHeld (x : Exchange α) (feed : FeedId) : Bool :=
  (x.feeds[feed]?).any (0 < ·.holders) || x.broadcasts.any fun b ↦ b.running && b.feed == feed

/-- Whether somebody can still send to the mailbox. -/
def connected (x : Exchange α) (mailbox : MailboxId) : Bool :=
  (x.mailboxes[mailbox]?).any (fun m ↦
    x.feedHeld m.feed && (x.feeds[m.feed]?).any (·.subscribers.any (·.2 == mailbox))) ||
  x.broadcasts.any fun b ↦ b.running && b.targets.any (·.2 == mailbox)

end Exchange

end LiveFind
