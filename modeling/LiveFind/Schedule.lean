import LiveFind.World

/-!
# Taking turns

Couriers, and broadcasts in the background, are tasks that take turns on a single worker, first
come, first served. A task works until it has nothing to do at the moment, and it gets another turn
once there is something to do for it again.

No task holds the worker for long: a turn allows a number of transfers, each of them one change that
is read from a mailbox or put into one. A task that is not done by then is put aside, and those put
aside get their next turns after the round, the last one first. A round ends when no turn is left,
or after so many of them. `settle` lets all tasks work until none has anything left to do.
-/

namespace LiveFind

/-- What takes turns. -/
inductive Task
  | courier (i : CourierId)
  | broadcast (i : BroadcastId)
deriving Repr, DecidableEq

/-- Live searches whose tasks take turns. -/
structure Schedule (α : Type) [BEq α] [Hashable α] where
  world : World α := {}
  /-- The tasks that wait for their turn, in the order in which they get it. -/
  turns : List Task := []
  /-- The tasks that have used up a turn in this round, the last one first. -/
  aside : List Task := []
  /-- The broadcasts that work in the background. -/
  background : List BroadcastId := []

namespace World

variable {α : Type} [BEq α] [Hashable α]

/-- Whether there is something to do for a task. -/
def canMove (w : World α) : Task → Bool
  | .courier i =>
    match w.couriers[i]? with
    | none => false
    | some c =>
      match c.stage with
      | .ended => false
      | .stopping => true
      | .running =>
        (w.exchange.mailboxes[c.mailbox]?).any (!·.queue.isEmpty) || !w.exchange.connected c.mailbox
  | .broadcast i =>
    match w.exchange.broadcasts[i]? with
    | none => false
    | some b =>
      b.running &&
        match b.targets with
        | [] => true
        | (_, mailbox) :: _ =>
          (w.exchange.mailboxes[mailbox]?).any fun m ↦ !m.hasReader || m.admits i

/-- Whether the next step of a task is a transfer. -/
def transfers (w : World α) : Task → Bool
  | .courier i => (w.couriers[i]?).any (·.stage == .running)
  | .broadcast i =>
    (w.exchange.broadcasts[i]?).any fun b ↦ b.stage == .sending && !b.targets.isEmpty

/-- One step of a task, and whether it may have more to do. -/
def step [Findable α] (w : World α) : Task → Bool × World α
  | .courier i => w.carry i
  | .broadcast i =>
    let (progress, notes, exchange) := w.exchange.advance i
    (progress == .moved, { w with exchange }.note notes)

end World

namespace Schedule

variable {α : Type} [BEq α] [Hashable α]

/-- The tasks that may wait for something: all couriers, and the background broadcasts that wait for
room. -/
def sleepers (s : Schedule α) : List Task :=
  (List.range s.world.couriers.length).map .courier ++
    ((s.world.exchange.mailboxes.flatMap (·.waiting)).filter s.background.contains).map .broadcast

/-- Give a turn to each task that has something to do and is not to have one anyway. The task at
work needs none. -/
def wake (s : Schedule α) (working : Option Task) : Schedule α :=
  let woken := s.sleepers.filter fun t ↦
    some t != working && !s.turns.contains t && !s.aside.contains t && s.world.canMove t
  { s with turns := s.turns ++ woken.eraseDups }

/-- The schedule after something happened in the world. -/
def withWorld (s : Schedule α) (world : World α) : Schedule α :=
  { s with world }.wake none

/-- Let a task work until it has nothing to do at the moment, or has no transfers left when it needs
one. -/
def workFor [Findable α] (t : Task) : Nat → Nat → Schedule α → Schedule α
  | 0, _, s => s
  | fuel + 1, transfers, s =>
    let counted := s.world.transfers t
    if counted && transfers == 0 then { s with aside := t :: s.aside }
    else
      match s.world.step t with
      | (true, world) => workFor t fuel (transfers - counted.toNat) ({ s with world }.wake (some t))
      | (false, world) => { s with world }.wake (some t)

/-- Let a task work with so many transfers. All other steps are one at the start and one at the end.
-/
def work [Findable α] (s : Schedule α) (t : Task) (transfers : Nat) : Schedule α :=
  workFor t (transfers + 3) transfers s

/-- How many transfers a turn allows. -/
def transfersPerTurn : Nat := 128

/-- How many turns a round may have. -/
def turnsPerRound : Nat := 61

/-- Let the tasks take the given number of turns, or fewer if none is left. -/
def takeTurns [Findable α] : Nat → Schedule α → Schedule α
  | 0, s => s
  | fuel + 1, s =>
    match s.turns with
    | [] => s
    | t :: rest => takeTurns fuel ({ s with turns := rest }.work t transfersPerTurn)

/-- Let the tasks work for a round. Those put aside get their turns after it. -/
def round [Findable α] (s : Schedule α) : Schedule α :=
  let s := takeTurns turnsPerRound s
  { s with turns := s.turns ++ s.aside, aside := [] }

/-- An upper bound of the steps that all tasks can take: one for each change in a mailbox and each
target of a broadcast, and few for each task. -/
def bound (s : Schedule α) : Nat :=
  let x := s.world.exchange
  let boxes := x.mailboxes.length
  let changes := x.mailboxes.foldl (fun n m ↦ n + m.queue.length) 0
  let visits := (x.broadcasts.length + 1) * (boxes + 3)
  let n := changes + s.turns.length + s.world.couriers.length + visits
  4 * n + 4

/-- Let the tasks work for the given number of rounds, or fewer if no turn is left. -/
def takeRounds [Findable α] : Nat → Schedule α → Schedule α
  | 0, s => s
  | fuel + 1, s => if s.turns.isEmpty then s else takeRounds fuel s.round

/-- Let all tasks work until none has anything left to do. -/
def settle [Findable α] (s : Schedule α) : Schedule α :=
  takeRounds s.bound s

/-! ### Operations that start tasks -/

/-- Let the hits of a finder follow a feed; the courier gets a turn. -/
def follow (s : Schedule α) (finder : FinderId) (feed : FeedId) (view : Option ViewId) :
    Except Fault Unit × Schedule α :=
  let courier := s.world.couriers.length
  match s.world.follow finder feed view with
  | (.ok (), world) => (.ok (), { s with world, turns := s.turns ++ [.courier courier] })
  | (.error fault, world) => (.error fault, s.withWorld world)

/-- Start a broadcast in the background. -/
def announceLater (s : Schedule α) (feed : FeedId) (c : Change α) : BroadcastId × Schedule α :=
  let (i, exchange) := s.world.exchange.announce feed c
  ( i
  , { s with
      world := { s.world with exchange }
      turns := s.turns ++ [.broadcast i]
      background := i :: s.background } )

/-- What became of a broadcast that was waited for. -/
inductive Delivery
  /-- It reached so many subscriptions. -/
  | delivered (count : Nat)
  /-- It could not go on, and was given up. -/
  | blocked
deriving Repr, DecidableEq

/-- How many subscriptions a broadcast has still to serve, if it is not done. -/
def remaining? (s : Schedule α) (broadcast : BroadcastId) : Option Nat :=
  match s.world.exchange.broadcasts[broadcast]? with
  | none => none
  | some b => if b.running then some b.targets.length else none

/-- How many subscriptions a broadcast has reached. -/
def delivered (s : Schedule α) (broadcast : BroadcastId) : Nat :=
  (s.world.exchange.broadcasts[broadcast]?).elim 0 (·.delivered)

/-- Let the others work for a round and go on with a broadcast, until it is done or nothing is left
that could get it further. -/
def push [Findable α] (broadcast : BroadcastId) : Nat → Schedule α → Delivery × Schedule α
  | 0, s => (.blocked, s)
  | fuel + 1, s =>
    if s.turns.isEmpty then
      let exchange := s.world.exchange.abandon broadcast
      (.blocked, (s.withWorld { s.world with exchange }).settle)
    else
      let s := s.round
      let s := s.work (.broadcast broadcast) s.bound
      match s.remaining? broadcast with
      | none => (.delivered (s.delivered broadcast), s.settle)
      | some _ => push broadcast fuel s

/-- Broadcast a change and wait for it. If it has to wait for room, the others work; if that does
not help, it is given up. The one who waits is no task and needs no turns. -/
def announce [Findable α] (s : Schedule α) (feed : FeedId) (c : Change α) : Delivery × Schedule α :=
  let (i, exchange) := s.world.exchange.announce feed c
  let s : Schedule α := { s with world := { s.world with exchange } }
  let s := s.work (.broadcast i) s.bound
  match s.remaining? i with
  | none => (.delivered (s.delivered i), s)
  | some _ => push i s.bound s

end Schedule

end LiveFind
