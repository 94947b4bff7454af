import LiveFind.Exchange.Broadcast
import LiveFind.Exchange.Subscription
import LiveFind.Hits

/-!
# Live searches

Hits that follow a feed. A finder has the hits of one search; following a feed gives it a courier,
which carries the changes from the mailbox of a subscription to the hits, one in a step. The link of
a finder names the feed that it follows, its subscription there and its courier.

As in the exchange, every operation is one indivisible step. A link ends in one of two ways: the
hits are retired, which takes the courier out of service, or the courier comes to an end by itself,
because nothing more can come or because the hits drop what it brings.
-/

namespace LiveFind

/-- A finder, by its index. -/
abbrev FinderId := Nat

/-- A courier, by its index. -/
abbrev CourierId := Nat

/-- A view, by its index. -/
abbrev ViewId := Nat

/-- How a finder follows a feed. -/
structure Link where
  feed : FeedId
  /-- The number of the subscription. -/
  number : Nat
  courier : CourierId
deriving Repr, DecidableEq

/-- The hits of a search, and the feed that they follow. -/
structure Finder (α : Type) [BEq α] [Hashable α] where
  hits : Hits α
  link : Option Link := none
  /-- Whether nobody uses the finder any more. -/
  gone : Bool := false

/-- How far a courier is. -/
inductive CourierStage
  | running
  /-- Taken out of service, and still to give its mailbox back. -/
  | stopping
  | ended
deriving Repr, DecidableEq

/-- What carries changes from a mailbox to a finder. -/
structure Courier where
  finder : FinderId
  mailbox : MailboxId
  /-- The number of the subscription that the mailbox belongs to. -/
  number : Nat
  /-- The view that the hits are for; without one, a view that stays open. -/
  view : Option ViewId
  stage : CourierStage := .running
deriving Repr, DecidableEq

/-- All live searches, with the feeds that they follow and the views that they are for. -/
structure World (α : Type) [BEq α] [Hashable α] where
  exchange : Exchange α := {}
  finders : List (Finder α) := []
  couriers : List Courier := []
  /-- For each view, whether it is closed. -/
  views : List Bool := []
  /-- What was put on record, in order. -/
  notes : List Note := []

namespace World

variable {α : Type} [BEq α] [Hashable α]

/-- Put notes on record. -/
def note (w : World α) (notes : List Note) : World α :=
  { w with notes := w.notes ++ notes }

/-- Change a finder. -/
def updateFinder (w : World α) (finder : FinderId) (f : Finder α → Finder α) : World α :=
  { w with finders := w.finders.modify finder f }

/-- Change a courier. -/
def updateCourier (w : World α) (courier : CourierId) (f : Courier → Courier) : World α :=
  { w with couriers := w.couriers.modify courier f }

/-! ### Views -/

/-- A new view, which is open. -/
def openView (w : World α) : ViewId × World α :=
  (w.views.length, { w with views := w.views ++ [false] })

/-- Close a view for good. -/
def closeView (w : World α) (view : ViewId) : World α :=
  { w with views := w.views.set view true }

/-- Whether a view is closed. Without a view there is nothing to close. -/
def viewClosed (w : World α) (view : Option ViewId) : Bool :=
  view.any fun v ↦ w.views[v]? == some true

/-! ### Finders -/

/-- A new finder for the hits. -/
def addFinder (w : World α) (hits : Hits α) : FinderId × World α :=
  (w.finders.length, { w with finders := w.finders ++ [{ hits }] })

/-- Step through the hits of a finder. -/
def stepWith (w : World α) (finder : FinderId) (step : Hits α → Except Fault (α × Hits α)) :
    Except Fault α × World α :=
  match w.finders[finder]? with
  | none => (.error .noHits, w)
  | some f =>
    match step f.hits with
    | .ok (a, hits) => (.ok a, w.updateFinder finder fun f ↦ { f with hits })
    | .error fault => (.error fault, w)

/-- Apply a change to the hits of a finder. -/
def apply [Findable α] (w : World α) (finder : FinderId) (view : Option ViewId) (c : Change α) :
    Outcome × World α :=
  match w.finders[finder]? with
  | none => (.dropped, w)
  | some f =>
    let (outcome, hits) := f.hits.apply (w.viewClosed view) c
    ( outcome
    , (w.updateFinder finder fun f ↦ { f with hits }).note
        (Note.ofOutcome hits.cursor c outcome) )

/-- Let the hits of a finder follow a feed. This is refused for retired hits, for those that follow
a feed already, and by a feed that is closed, and then nothing happens. -/
def follow (w : World α) (finder : FinderId) (feed : FeedId) (view : Option ViewId) :
    Except Fault Unit × World α :=
  match w.finders[finder]? with
  | none => (.error .retired, w)
  | some f =>
    if f.hits.retired then (.error .retired, w)
    else if f.link.isSome then (.error .alreadyFollowing, w)
    else
      match w.exchange.subscribe feed with
      | (.error fault, exchange) => (.error fault, { w with exchange })
      | (.ok s, exchange) =>
        let courier : Courier := { finder, mailbox := s.mailbox, number := s.number, view }
        let link : Link := { feed, number := s.number, courier := w.couriers.length }
        let w := { w with exchange := exchange.hold feed, couriers := w.couriers ++ [courier] }
        ( .ok ()
        , (w.updateFinder finder fun f ↦ { f with link := some link }).note
            [.following f.hits.query.text s.number] )

/-- End the link of a finder: its subscription ends, and the feed is let go. -/
def unlink (w : World α) (finder : FinderId) (link : Link) : World α :=
  let exchange := (w.exchange.unsubscribe link.feed link.number).release link.feed
  { w with exchange }.updateFinder finder fun f ↦ { f with link := none }

/-- Retire the hits of a finder. If they follow a feed, they stop to. -/
def retire (w : World α) (finder : FinderId) : World α :=
  match w.finders[finder]? with
  | none => w
  | some f =>
    let w := w.updateFinder finder fun f ↦ { f with hits := f.hits.retire }
    match f.link with
    | none => w
    | some link =>
      let w := (w.unlink finder link).updateCourier link.courier fun c ↦
        if c.stage = .running then { c with stage := .stopping } else c
      w.note [.released f.hits.query.text link.number]

/-- Do away with a finder. -/
def dropFinder (w : World α) (finder : FinderId) : World α :=
  (w.retire finder).updateFinder finder fun f ↦ { f with gone := true }

/-! ### Couriers -/

/-- The end of a courier's work: nobody reads its mailbox any more. -/
def putAway (w : World α) (courier : CourierId) (c : Courier) : World α :=
  { w with exchange := w.exchange.discard c.mailbox }.updateCourier courier fun c ↦
    { c with stage := .ended }

/-- A courier comes to an end by itself. If its finder is linked by the same subscription number,
the link ends too. -/
def finish (w : World α) (courier : CourierId) (c : Courier) : World α :=
  match w.finders[c.finder]? with
  | none => w.putAway courier c
  | some f =>
    match f.link with
    | none => w.putAway courier c
    | some link =>
      if !f.gone && link.number == c.number then
        let w := (w.unlink c.finder link).note [.deliveryEnded f.hits.query.text c.number]
        w.putAway courier c
      else w.putAway courier c

/-- One step of a courier: carry one change, or come to an end. Also says whether it may have more
to do. -/
def carry [Findable α] (w : World α) (courier : CourierId) : Bool × World α :=
  match w.couriers[courier]? with
  | none => (false, w)
  | some c =>
    match c.stage with
    | .ended => (false, w)
    | .stopping => (false, w.putAway courier c)
    | .running =>
      match w.exchange.receive c.mailbox with
      | (.empty, _) => (false, w)
      | (.ended, _) => (false, w.finish courier c)
      | (.change change, exchange) =>
        let w := { w with exchange }
        if (w.finders[c.finder]?).any (·.gone) then (false, w.finish courier c)
        else
          match w.apply c.finder c.view change with
          | (.dropped, w) => (false, w.finish courier c)
          | (_, w) => (true, w)

end World

end LiveFind
