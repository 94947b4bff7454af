import LiveFind.Node
import LiveFind.Session
import LiveFind.Proofs.Node.ReadBack
import LiveFind.Proofs.Pattern.Identifier
import LiveFind.Proofs.Query.Pieces
import LiveFind.Proofs.Query.Fields
import LiveFind.Proofs.Query.Identifiers
import LiveFind.Proofs.Query.Firsts
import LiveFind.Proofs.Query.Settled
import LiveFind.Proofs.Exchange.History
import LiveFind.Proofs.Exchange.FanOut
import LiveFind.Proofs.Exchange.Order
import LiveFind.Proofs.Exchange.Ending
import LiveFind.Proofs.Exchange.Roster
import LiveFind.Proofs.Hits.Tracking
import LiveFind.Proofs.Hits.Turns
import LiveFind.Proofs.Hits.Backward
import LiveFind.Proofs.Hits.Anchor
import LiveFind.Proofs.Hits.Stepping
import LiveFind.Proofs.Hits.LastShown
import LiveFind.Proofs.Hits.Mirror
import LiveFind.Proofs.Hits.Start
import LiveFind.Proofs.World.Delivery
import LiveFind.Proofs.World.Teardown
import LiveFind.Proofs.World.Frozen
import LiveFind.Proofs.World.Refusal
import LiveFind.Proofs.World.Following
import LiveFind.Proofs.World.Capacity
import LiveFind.Proofs.Settings.Saved
