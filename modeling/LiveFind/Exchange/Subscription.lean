import LiveFind.Exchange.Basic
import LiveFind.Fault

/-!
# Subscriptions

Who gets the changes of a feed, and how they are read. Every operation is one indivisible step.
-/

namespace LiveFind

namespace Exchange

variable {α : Type}

/-! ### Feeds -/

/-- A new feed with this capacity, or room for one change if that is zero. -/
def openFeed (x : Exchange α) (capacity : Nat) : FeedId × Exchange α :=
  (x.feeds.length, { x with feeds := x.feeds ++ [{ capacity := max capacity 1 }] })

/-- One more outside of the exchange holds on to the feed. -/
def hold (x : Exchange α) (feed : FeedId) : Exchange α :=
  x.updateFeed feed fun f ↦ { f with holders := f.holders + 1 }

/-- One less outside of the exchange holds on to the feed. -/
def release (x : Exchange α) (feed : FeedId) : Exchange α :=
  x.updateFeed feed fun f ↦ { f with holders := f.holders - 1 }

/-- Take no more subscriptions, and end those there are. -/
def close (x : Exchange α) (feed : FeedId) : Exchange α :=
  x.updateFeed feed fun f ↦ { f with closed := true, subscribers := [] }

/-- End the subscription with this number. -/
def unsubscribe (x : Exchange α) (feed : FeedId) (number : Nat) : Exchange α :=
  x.updateFeed feed fun f ↦ { f with subscribers := f.subscribers.filter (·.1 != number) }

/-- Make a subscription. The number is used up even if a mailbox of that size cannot be made. -/
def subscribe (x : Exchange α) (feed : FeedId) : Except Fault Subscription × Exchange α :=
  match x.feeds[feed]? with
  | none => (.error .feedClosed, x)
  | some f =>
    if f.closed then (.error .feedClosed, x)
    else if bufferLimit < f.capacity then
      (.error .bufferTooLarge, x.updateFeed feed fun f ↦ { f with nextNumber := f.nextNumber + 1 })
    else
      let mailbox := x.mailboxes.length
      let box : Mailbox α := { feed, capacity := f.capacity }
      ( .ok { number := f.nextNumber, mailbox }
      , { x with mailboxes := x.mailboxes ++ [box] }.updateFeed feed fun f ↦
          { f with
            nextNumber := f.nextNumber + 1
            subscribers := f.subscribers ++ [(f.nextNumber, mailbox)] } )

/-! ### Mailboxes -/

/-- Read the next change. -/
def receive (x : Exchange α) (mailbox : MailboxId) : Receipt α × Exchange α :=
  match x.mailboxes[mailbox]? with
  | none => (.ended, x)
  | some m =>
    match m.queue with
    | c :: rest => (.change c, x.updateMailbox mailbox fun m ↦ { m with queue := rest })
    | [] => (if x.connected mailbox then .empty else .ended, x)

/-- Stop reading a mailbox. Its changes are lost. -/
def discard (x : Exchange α) (mailbox : MailboxId) : Exchange α :=
  x.updateMailbox mailbox fun m ↦ { m with hasReader := false, queue := [] }

end Exchange

end LiveFind
