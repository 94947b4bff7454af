import LiveFind.Proofs.Exchange.Pending
import LiveFind.Proofs.World.Links

/-!
# A feed in a world

What the users of a world have to keep to, and what happens then on one feed. `Orderly` asks for two
things: that they own what they use, and that the publisher of the feed waits for each broadcast.
Worlds that orderly actions lead to (`Ordered`) have links and couriers that agree, and one
broadcast of the feed that sends at most.

Following a feed, retiring and carrying do something in the exchange, too. All of it is quiet
(`Exchange.Quietly`): no broadcast takes a step and no feed closes. So it is only by what is done in
the exchange from outside that changes are published (`published`) and that the feed closes. But for
the subscription that a finder makes to follow a feed, something is taken away from the exchange at
most (`Exchange.Dwindles`).
-/

namespace LiveFind

/-! ### Quiet actions -/

namespace Exchange

variable {α : Type}

/-- No broadcast is made, takes a step or is given up, and no feed closes. -/
def Action.Quiet : Action α → Prop
  | .close _ | .announce .. | .advance _ | .abandon _ => False
  | _ => True

/-- The other exchange comes from this one by quiet actions. -/
inductive Quietly (x : Exchange α) : Exchange α → Prop
  | refl : Quietly x x
  | act {x' : Exchange α} (a : Action α) (ha : a.Quiet) : Quietly x x' → Quietly x (x'.act a)

/-- Something is taken away, and nothing is added. -/
def Action.Takes : Action α → Prop
  | .receive _ | .discard _ | .unsubscribe .. | .release _ => True
  | _ => False

theorem Action.Takes.quiet {a : Action α} (ha : a.Takes) : a.Quiet := by
  cases a with
  | receive | discard | unsubscribe | release => trivial
  | _ => cases ha

/-- The other exchange comes from this one by taking something away. -/
inductive Dwindles (x : Exchange α) : Exchange α → Prop
  | refl : Dwindles x x
  | act {x' : Exchange α} (a : Action α) (ha : a.Takes) : Dwindles x x' → Dwindles x (x'.act a)

variable {x x' x'' : Exchange α} {feed : FeedId}

theorem Dwindles.trans (h : x.Dwindles x') (h' : x'.Dwindles x'') : x.Dwindles x'' := by
  induction h' with
  | refl => exact h
  | act a ha _ ih => exact .act a ha ih

theorem Dwindles.quietly (h : x.Dwindles x') : x.Quietly x' := by
  induction h with
  | refl => exact .refl
  | act a ha _ ih => exact .act a ha.quiet ih

theorem Quietly.solo (h : x.Quietly x') (hx : x.Solo feed) : x'.Solo feed := by
  induction h with
  | refl => exact hx
  | act a ha _ ih =>
    -- what is quiet is nothing that a publisher has to wait with
    refine ih.act ?_
    cases a <;> trivial

theorem Quietly.isClosed_eq (h : x.Quietly x') : x'.isClosed feed = x.isClosed feed := by
  induction h with
  | refl => rfl
  | act a ha _ ih =>
    rw [isClosed_act_of_ne ?_, ih]
    rintro rfl
    cases ha

end Exchange

namespace World

variable {α : Type} [BEq α] [Hashable α]

section Quiet

variable {w : World α}

theorem dwindles_unlink (finder : FinderId) (link : Link) :
    w.exchange.Dwindles (w.unlink finder link).exchange :=
  .act (.release link.feed) trivial (.act (.unsubscribe link.feed link.number) trivial .refl)

theorem dwindles_retire (finder : FinderId) :
    w.exchange.Dwindles (w.retire finder).exchange := by
  rw [retire]
  split
  · exact .refl
  · dsimp only
    split
    · exact .refl
    · exact dwindles_unlink (w := w.updateFinder finder _) finder _

theorem dwindles_finish (courier : CourierId) (c : Courier) :
    w.exchange.Dwindles (w.finish courier c).exchange := by
  rw [finish]
  split
  · exact .act (.discard c.mailbox) trivial .refl
  · split
    · exact .act (.discard c.mailbox) trivial .refl
    · split
      · exact .act (.discard c.mailbox) trivial (dwindles_unlink c.finder _)
      · exact .act (.discard c.mailbox) trivial .refl

variable [Findable α]

theorem dwindles_carry (courier : CourierId) :
    w.exchange.Dwindles (w.carry courier).2.exchange := by
  have hcarries := w.carries_carry courier
  generalize (w.carry courier).2 = w' at hcarries ⊢
  cases hcarries with
  | idle => exact .refl
  | @putAway c => exact .act (.discard c.mailbox) trivial .refl
  | finish => exact dwindles_finish _ _
  | @lose c =>
    have hreceived : w.exchange.Dwindles (w.withReceived c.mailbox).exchange :=
      .act (.receive c.mailbox) trivial .refl
    exact hreceived.trans (dwindles_finish _ _)
  | @refuse c change =>
    have hreceived : w.exchange.Dwindles (w.withReceived c.mailbox).exchange :=
      .act (.receive c.mailbox) trivial .refl
    rw [← exchange_apply (w.withReceived c.mailbox) c.finder c.view change] at hreceived
    exact hreceived.trans (dwindles_finish _ _)
  | @bring c =>
    rw [exchange_apply]
    exact .act (.receive c.mailbox) trivial .refl

omit [BEq α] [Hashable α] [Findable α] in
theorem Action.exchange_or (a : Action α) : (∃ x, a = .exchange x) ∨ ∀ x, a ≠ .exchange x := by
  cases a with
  | exchange x => exact .inl ⟨x, rfl⟩
  | _ => exact .inr fun x heq ↦ by cases heq

/-- Whoever does nothing in the exchange itself and follows no feed adds nothing there. -/
theorem dwindles_act {a : Action α} (ha : ∀ x, a ≠ .exchange x)
    (hfollow : ∀ i feed view, a ≠ .follow i feed view) :
    w.exchange.Dwindles (w.act a).exchange := by
  cases a with
  | openView | closeView | search => exact .refl
  | exchange x => exact absurd rfl (ha x)
  | track q matched start =>
    rw [act]
    split <;> exact .refl
  | next finder | previous finder =>
    rw [act, stepWith]
    split
    · exact .refl
    · split <;> exact .refl
  | apply finder view c => rw [act, exchange_apply]; exact .refl
  | follow finder feed view => exact absurd rfl (hfollow finder feed view)
  | retire finder => exact dwindles_retire finder
  | drop finder => exact dwindles_retire finder
  | carry courier => exact dwindles_carry courier

/-- Whatever is not done in the exchange itself is quiet there. -/
theorem quietly_act {a : Action α} (ha : ∀ x, a ≠ .exchange x) :
    w.exchange.Quietly (w.act a).exchange := by
  by_cases hfollow : ∃ i feed view, a = .follow i feed view
  · obtain ⟨finder, feed, view, rfl⟩ := hfollow
    rw [act]
    rcases w.follow_cases finder feed view with
      ⟨-, -, heq | heq⟩ | ⟨-, f, notes, -, -, -, -, -, hsubscribe, heq⟩ <;> rw [heq]
    · exact .refl
    · exact .act (.subscribe feed) trivial .refl
    · refine .act (.hold feed) trivial ?_
      rw [← hsubscribe]
      exact .act (.subscribe feed) trivial .refl
  · refine (dwindles_act ha fun i feed view heq ↦ ?_).quietly
    exact hfollow ⟨i, feed, view, heq⟩

/-- What every action of an exchange keeps, every action of a world keeps in its exchange. -/
theorem preserved_act {P : Exchange α → Prop} (hP : ∀ x a, P x → P (x.act a)) (a : Action α)
    (h : P w.exchange) : P (w.act a).exchange := by
  rcases a.exchange_or with ⟨x, rfl⟩ | hne
  · obtain ⟨notes, heq⟩ := w.exists_act_exchange x
    rw [heq]
    exact hP _ x h
  · have hquiet := quietly_act (w := w) hne
    generalize (w.act a).exchange = x' at hquiet
    induction hquiet with
    | refl => exact h
    | act x _ _ ih => exact hP _ x ih

theorem preserved_run {P : Exchange α → Prop} (hP : ∀ x a, P x → P (x.act a))
    (actions : List (Action α)) (h : P w.exchange) : P (w.run actions).exchange := by
  induction actions generalizing w with
  | nil => exact h
  | cons a actions ih => exact ih (preserved_act hP a h)

end Quiet

/-! ### Orderly actions -/

/-- The publisher of the feed waits for each broadcast before it starts the next. -/
def Waits (w : World α) (feed : FeedId) : Action α → Prop
  | .exchange x => w.exchange.Waits feed x
  | _ => True

instance (w : World α) (feed : FeedId) : DecidablePred (w.Waits feed)
  | .exchange x => inferInstanceAs (Decidable (w.exchange.Waits feed x))
  | .openView | .closeView _ | .search .. | .track .. | .next _ | .previous _ | .apply ..
  | .follow .. | .retire _ | .drop _ | .carry _ => .isTrue trivial

/-- What is done from outside is done to one's own things, and the publisher of the feed waits. -/
def Orderly (feed : FeedId) (w : World α) (a : Action α) : Prop :=
  w.Owned a ∧ w.Waits feed a

instance (feed : FeedId) (w : World α) : DecidablePred (w.Orderly feed) :=
  fun a ↦ inferInstanceAs (Decidable (w.Owned a ∧ w.Waits feed a))

variable [Findable α]

/-- Worlds that orderly actions lead to from an empty one. -/
inductive Ordered (feed : FeedId) : World α → Prop
  | empty : Ordered feed {}
  | act {w : World α} {a : Action α} (ha : w.Orderly feed a) : Ordered feed w →
      Ordered feed (w.act a)

/-- Every action of a run obeys a rule, in the world in which it is done. -/
def Obeys (w : World α) (rule : World α → Action α → Prop) : List (Action α) → Prop
  | [] => True
  | a :: actions => rule w a ∧ (w.act a).Obeys rule actions

instance Obeys.decidable (rule : World α → Action α → Prop) [∀ w, DecidablePred (rule w)] :
    (w : World α) → (actions : List (Action α)) → Decidable (w.Obeys rule actions)
  | _, [] => .isTrue trivial
  | w, a :: actions =>
    have := Obeys.decidable rule (w.act a) actions
    inferInstanceAs (Decidable (rule w a ∧ (w.act a).Obeys rule actions))

variable {w : World α} {feed : FeedId}

theorem Obeys.imp {rule rule' : World α → Action α → Prop} (himp : ∀ w a, rule w a → rule' w a)
    {actions : List (Action α)} (h : w.Obeys rule actions) : w.Obeys rule' actions := by
  induction actions generalizing w with
  | nil => trivial
  | cons a actions ih => exact ⟨himp w a h.1, ih h.2⟩

/-- A run obeys a rule in its two parts. -/
theorem obeys_append {rule : World α → Action α → Prop} {actions actions' : List (Action α)} :
    w.Obeys rule (actions ++ actions') ↔
      w.Obeys rule actions ∧ (w.run actions).Obeys rule actions' := by
  induction actions generalizing w with
  | nil => exact ⟨fun h ↦ ⟨trivial, h⟩, And.right⟩
  | cons a actions ih => exact (and_congr_right fun _ ↦ ih).trans and_assoc.symm

theorem Ordered.run (hw : w.Ordered feed) {actions : List (Action α)}
    (hactions : w.Obeys (Orderly feed) actions) : (w.run actions).Ordered feed := by
  induction actions generalizing w with
  | nil => exact hw
  | cons a actions ih => exact ih (hw.act hactions.1) hactions.2

theorem Ordered.linked (hw : w.Ordered feed) : ∃ number, w.Linked number := by
  induction hw with
  | empty => exact ⟨fun _ ↦ 0, linked_empty _⟩
  | act ha _ ih =>
    obtain ⟨number, hlinked⟩ := ih
    exact hlinked.act ha.1.possible

theorem Ordered.solo (hw : w.Ordered feed) : w.exchange.Solo feed := by
  induction hw with
  | empty => exact Exchange.solo_empty feed
  | @act w a ha _ ih =>
    rcases a.exchange_or with ⟨x, rfl⟩ | hne
    · obtain ⟨notes, heq⟩ := w.exists_act_exchange x
      rw [heq]
      exact ih.act ha.2
    · exact (quietly_act hne).solo ih

/-! ### What is published -/

/-- The change whose broadcast on the feed an action starts. -/
def publishes (w : World α) (feed : FeedId) : Action α → Option (Change α)
  | .exchange x => w.exchange.starts feed x
  | _ => none

/-- The changes whose broadcasts on the feed a run starts, in order. -/
def published (w : World α) (feed : FeedId) : List (Action α) → List (Change α)
  | [] => []
  | a :: actions => (w.publishes feed a).toList ++ (w.act a).published feed actions

/-- Whether the action closes the feed. -/
def Action.closes (feed : FeedId) : Action α → Bool
  | .exchange (.close feed') => feed' == feed
  | _ => false

omit [BEq α] [Hashable α] [Findable α] in
theorem Action.closes_eq_true {a : Action α} (h : a.closes feed = true) :
    a = .exchange (.close feed) := by
  unfold closes at h
  split at h
  · rw [beq_iff_eq.1 h]
  · cases h

/-- More actions publish more, at the end. -/
theorem published_append (w : World α) (feed : FeedId) (actions actions' : List (Action α)) :
    w.published feed (actions ++ actions') =
      w.published feed actions ++ (w.run actions).published feed actions' := by
  induction actions generalizing w with
  | nil => rfl
  | cons a actions ih =>
    rw [List.cons_append, published, published, ih, List.append_assoc]
    rfl

/-- A feed closes by being closed only. -/
theorem isClosed_act_of_not_closes {a : Action α} (ha : a.closes feed = false) :
    (w.act a).exchange.isClosed feed = w.exchange.isClosed feed := by
  rcases a.exchange_or with ⟨x, rfl⟩ | hne
  · obtain ⟨notes, heq⟩ := w.exists_act_exchange x
    rw [heq]
    refine Exchange.isClosed_act_of_ne ?_
    rintro rfl
    rw [Action.closes, beq_self_eq_true] at ha
    cases ha
  · exact (quietly_act hne).isClosed_eq

theorem isClosed_act {f : Feed} (hf : w.exchange.feeds[feed]? = some f) (a : Action α) :
    (w.act a).exchange.isClosed feed = (w.exchange.isClosed feed || a.closes feed) := by
  cases ha : a.closes feed with
  | false => rw [isClosed_act_of_not_closes ha, Bool.or_false]
  | true =>
    rw [Action.closes_eq_true ha, Bool.or_true]
    exact Exchange.isClosed_act_close hf

/-- The changes that a run publishes before it closes the feed. -/
def publishedOpen (w : World α) (feed : FeedId) (actions : List (Action α)) : List (Change α) :=
  if w.exchange.isClosed feed then []
  else w.published feed (actions.takeWhile fun a ↦ !a.closes feed)

theorem publishedOpen_cons {f : Feed} (hf : w.exchange.feeds[feed]? = some f) (a : Action α)
    (actions : List (Action α)) :
    w.publishedOpen feed (a :: actions) =
      (if w.exchange.isClosed feed then [] else (w.publishes feed a).toList) ++
        (w.act a).publishedOpen feed actions := by
  rw [publishedOpen, publishedOpen, isClosed_act hf]
  cases w.exchange.isClosed feed with
  | true => rfl
  | false =>
    cases ha : a.closes feed with
    | true =>
      -- the action that closes the feed publishes nothing
      rw [List.takeWhile_cons_of_neg (by simp [ha]), Action.closes_eq_true ha]
      rfl
    | false =>
      rw [List.takeWhile_cons_of_pos (by simp [ha]), published]
      rfl

end World

end LiveFind
