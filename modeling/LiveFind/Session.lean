import LiveFind.Session.Command

/-!
# Sessions

A session works on live searches by name. There are five spaces of names: finders, feeds,
subscriptions that are read by hand, views, and broadcasts in the background. Making something under
a name in use replaces what had it: the new one is made first, then the old one is let go.

While a broadcast in the background has a name, all tasks work between any two commands; otherwise
they work only when asked to, or when a broadcast has to wait.
-/

namespace LiveFind

/-- Named things, by the index that they have. -/
abbrev Names := List (String × Nat)

/-- Name something; what had the name before has it no more. -/
def Names.put (names : Names) (name : String) (index : Nat) : Names :=
  (name, index) :: names.eraseP (·.1 == name)

/-- Forget a name. -/
def Names.forget (names : Names) (name : String) : Names :=
  names.eraseP (·.1 == name)

/-- The query for a text as it was typed, with the pattern for identifiers if one is given. -/
def Query.ofTyped (raw : String) (pattern : Option String) : Except Fault Query :=
  match pattern with
  | none => .ok (Query.ofText .default raw)
  | some source =>
    match Pattern.ofText source with
    | .ok p => .ok (Query.ofText p raw)
    | .error fault => .error (.pattern fault)

/-- Live searches, and the names of what a session works on. -/
structure Session (α : Type) [BEq α] [Hashable α] where
  schedule : Schedule α := {}
  finders : Names := []
  feeds : Names := []
  subscriptions : Names := []
  views : Names := []
  broadcasts : Names := []

namespace Session

variable {α : Type} [BEq α] [Hashable α]

/-- The live searches of the session. -/
def world (s : Session α) : World α :=
  s.schedule.world

/-- The session after something happened in its world. -/
def withWorld (s : Session α) (world : World α) : Session α :=
  { s with schedule := s.schedule.withWorld world }

/-- The session after something happened in its exchange. -/
def withExchange (s : Session α) (exchange : Exchange α) : Session α :=
  s.withWorld { s.world with exchange }

/-- The session with new notes. -/
def note (s : Session α) (notes : List Note) : Session α :=
  s.withWorld (s.world.note notes)

/-- The names in a space. -/
def names (s : Session α) : Kind → Names
  | .finder => s.finders
  | .feed => s.feeds
  | .subscription => s.subscriptions
  | .view => s.views
  | .broadcast => s.broadcasts

/-- Go on with what has the name, or say that nothing has it. -/
def named (s : Session α) (kind : Kind) (name : String)
    (go : Nat → Reply α × Session α) : Reply α × Session α :=
  match (s.names kind).lookup name with
  | some i => go i
  | none => (.unknown kind, s)

/-- Go on with the view that has the name, if a name is given. -/
def namedView (s : Session α) (name : Option String)
    (go : Option Nat → Reply α × Session α) : Reply α × Session α :=
  match name with
  | none => go none
  | some name => s.named .view name fun i ↦ go (some i)

/-- Name a new finder, and do away with the one that had the name. -/
def addFinder (s : Session α) (name : String) (hits : Hits α) (notes : List Note) : Session α :=
  let old := s.finders.lookup name
  let (i, world) := s.world.addFinder hits
  let s := { s.withWorld (world.note notes) with finders := s.finders.put name i }
  match old with
  | none => s
  | some i => s.withWorld (s.world.dropFinder i)

/-- Name a new feed, and let go of the one that had the name. -/
def addFeed (s : Session α) (name : String) (capacity : Nat) : Reply α × Session α :=
  let old := s.feeds.lookup name
  let (i, exchange) := s.world.exchange.openFeed capacity
  let s := { s.withExchange exchange with feeds := s.feeds.put name i }
  let s := match old with
    | none => s
    | some i => s.withExchange (s.world.exchange.release i)
  (.capacity (max capacity 1), s)

/-- Name a new subscription, and stop reading the one that had the name. -/
def addSubscription (s : Session α) (name : String) (sub : Subscription) : Session α :=
  let old := s.subscriptions.lookup name
  let s := { s with subscriptions := s.subscriptions.put name sub.mailbox }
  match old with
  | none => s
  | some i => s.withExchange (s.world.exchange.discard i)

/-- Step through the hits of a finder. -/
def stepWith (s : Session α) (finder : String)
    (step : Hits α → Except Fault (α × Hits α)) : Reply α × Session α :=
  s.named .finder finder fun i ↦
    match s.world.stepWith i step with
    | (.ok a, world) => (.item a, s.withWorld world)
    | (.error fault, world) => (.refused fault, s.withWorld world)

variable [Findable α]

/-- Carry out a command, without what follows on it. -/
def perform (s : Session α) : Command α → Reply α × Session α
  | .new name matched start raw pattern =>
    match Query.ofTyped raw pattern with
    | .error fault => (.refused fault, s)
    | .ok q =>
      match Hits.ofMatches q matched start with
      | .error fault => (.refused fault, s)
      | .ok hits => (.query q, s.addFinder name hits [])
  | .search name collection raw pattern =>
    match Query.ofTyped raw pattern with
    | .error fault => (.refused fault, s)
    | .ok q =>
      let hits := Hits.ofSearch q collection
      (.query q, s.addFinder name hits [.searched q hits.items.length])
  | .next finder => s.stepWith finder Hits.next
  | .previous finder => s.stepWith finder Hits.previous
  | .current finder =>
    s.named .finder finder fun i ↦ (.current ((s.world.finders[i]?).bind (·.hits.current?)), s)
  | .apply finder change view =>
    s.named .finder finder fun i ↦ s.namedView view fun v ↦
      let (outcome, world) := s.world.apply i v change
      (.outcome outcome, s.withWorld world)
  | .follow finder feed view =>
    s.named .finder finder fun i ↦ s.named .feed feed fun f ↦ s.namedView view fun v ↦
      match s.schedule.follow i f v with
      | (.ok (), schedule) => (.done, { s with schedule })
      | (.error fault, schedule) => (.refused fault, { s with schedule })
  | .retire finder =>
    s.named .finder finder fun i ↦ (.done, s.withWorld (s.world.retire i))
  | .drop finder =>
    s.named .finder finder fun i ↦
      (.done, { s.withWorld (s.world.dropFinder i) with finders := s.finders.forget finder })
  | .openFeed name .standard => s.addFeed name ({} : Settings).effectiveBuffer
  | .openFeed name (.room capacity) => s.addFeed name capacity
  | .openFeed name (.settings value) =>
    match Settings.ofJson value with
    | .ok settings => s.addFeed name settings.effectiveBuffer
    | .error fault => (.unreadable fault, s)
  | .closeFeed feed =>
    s.named .feed feed fun f ↦ (.done, s.withExchange (s.world.exchange.close f))
  | .subscribe feed name =>
    s.named .feed feed fun f ↦
      match s.world.exchange.subscribe f with
      | (.ok sub, exchange) =>
        (.subscribed sub.number, (s.withExchange exchange).addSubscription name sub)
      | (.error fault, exchange) => (.refused fault, s.withExchange exchange)
  | .unsubscribe feed number =>
    s.named .feed feed fun f ↦ (.done, s.withExchange (s.world.exchange.unsubscribe f number))
  | .discard subscription =>
    s.named .subscription subscription fun m ↦
      ( .done
      , { s.withExchange (s.world.exchange.discard m) with
          subscriptions := s.subscriptions.forget subscription } )
  | .receive subscription =>
    s.named .subscription subscription fun m ↦
      let (receipt, exchange) := s.world.exchange.receive m
      (.receipt receipt, s.withExchange exchange)
  | .announce feed change none =>
    s.named .feed feed fun f ↦
      let (delivery, schedule) := s.schedule.announce f change
      (.delivery delivery, { s with schedule })
  | .announce feed change (some name) =>
    s.named .feed feed fun f ↦
      let (i, schedule) := s.schedule.announceLater f change
      (.inBackground, { s with schedule, broadcasts := s.broadcasts.put name i })
  | .poll broadcast =>
    s.named .broadcast broadcast fun i ↦
      match s.schedule.remaining? i with
      | some _ => (.pending, s)
      | none =>
        ( .delivery (.delivered (s.schedule.delivered i))
        , { s with broadcasts := s.broadcasts.forget broadcast } )
  | .cancel broadcast =>
    s.named .broadcast broadcast fun i ↦
      let s := s.withExchange (s.world.exchange.abandon i)
      ( .done
      , { s with
          schedule := s.schedule.settle
          broadcasts := s.broadcasts.forget broadcast } )
  | .openView name =>
    let (i, world) := s.world.openView
    (.done, { s.withWorld world with views := s.views.put name i })
  | .shareView view name =>
    s.named .view view fun i ↦ (.done, { s with views := s.views.put name i })
  | .closeView view => s.named .view view fun i ↦ (.done, s.withWorld (s.world.closeView i))
  | .viewClosed view => s.namedView view fun v ↦ (.closed (s.world.viewClosed v), s)
  | .settle => (.done, { s with schedule := s.schedule.settle })

/-- Carry out a command. As long as a broadcast in the background has a name, all tasks work
afterwards. Gives the reply and the notes that were made. -/
def run (s : Session α) (c : Command α) : Reply α × List Note × Session α :=
  let (reply, s) := s.perform c
  let s := if s.broadcasts.isEmpty then s else { s with schedule := s.schedule.settle }
  let notes := s.world.notes
  (reply, notes, { s with schedule := { s.schedule with world := { s.world with notes := [] } } })

end Session

end LiveFind
