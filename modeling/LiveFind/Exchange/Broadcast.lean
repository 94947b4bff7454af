import LiveFind.Exchange.Basic
import LiveFind.Note

/-!
# Broadcasts

A change on its way to the subscriptions of a feed. A broadcast takes many steps, each of them
indivisible, so that whatever else happens can happen in between: it fixes the subscriptions, serves
one after the other, waiting for room where there is none, and at the end has the feed forget those
whose reader was gone.
-/

namespace LiveFind

namespace Exchange

variable {α : Type}

/-- A new broadcast of a change. -/
def announce (x : Exchange α) (feed : FeedId) (change : Change α) : BroadcastId × Exchange α :=
  (x.broadcasts.length, { x with broadcasts := x.broadcasts ++ [{ feed, change }] })

/-- Send a broadcast to the subscription whose turn it is. A reader that is gone is noted and passed
over. -/
def sendNext (x : Exchange α) (broadcast : BroadcastId) (b : Broadcast α) (target : Nat × MailboxId)
    (rest : List (Nat × MailboxId)) : Progress × List Note × Exchange α :=
  let (number, mailbox) := target
  match x.mailboxes[mailbox]? with
  | none => (.finished, [], x)
  | some m =>
    if !m.hasReader then
      let x := x.updateMailbox mailbox (·.forget broadcast)
      ( .moved
      , [.readerGone number]
      , x.updateBroadcast broadcast fun b ↦ { b with targets := rest, gone := b.gone ++ [number] } )
    else if m.admits broadcast then
      let x := x.updateMailbox mailbox (·.push broadcast b.change)
      ( .moved
      , []
      , x.updateBroadcast broadcast fun b ↦
          { b with targets := rest, delivered := b.delivered + 1 } )
    else (.waiting, [], x.updateMailbox mailbox (·.await broadcast))

/-- One step of a broadcast: fix the subscriptions, serve the next of them, or, when all are served,
end those whose reader was gone. -/
def advance (x : Exchange α) (broadcast : BroadcastId) : Progress × List Note × Exchange α :=
  match x.broadcasts[broadcast]? with
  | none => (.finished, [], x)
  | some b =>
    match b.stage with
    | .fresh =>
      let targets := (x.feeds[b.feed]?).elim [] (·.subscribers)
      (.moved, [], x.updateBroadcast broadcast fun b ↦ { b with stage := .sending, targets })
    | .sending =>
      match b.targets with
      | target :: rest => x.sendNext broadcast b target rest
      | [] =>
        let x := x.updateFeed b.feed fun f ↦
          { f with subscribers := f.subscribers.filter fun s ↦ !b.gone.contains s.1 }
        (.finished, [], x.updateBroadcast broadcast fun b ↦ { b with stage := .done })
    | .done | .abandoned => (.finished, [], x)

/-- Give up a broadcast. Those not served yet get nothing, and nobody is ended. -/
def abandon (x : Exchange α) (broadcast : BroadcastId) : Exchange α :=
  match x.broadcasts[broadcast]? with
  | none => x
  | some b =>
    if b.running then
      let mailboxes := x.mailboxes.map fun m ↦ m.forget broadcast
      { x with mailboxes }.updateBroadcast broadcast fun b ↦
        { b with stage := .abandoned, targets := [] }
    else x

end Exchange

end LiveFind
