import LiveFind.Exchange.Broadcast
import LiveFind.Exchange.Subscription

/-!
# Runs of an exchange

What can be done with feeds, mailboxes and broadcasts, as actions that are indivisible steps, in any
order. A broadcast is made by one action and goes on by others, so whatever else happens can happen
in between.

`Advances` spells out what a step of a broadcast can do. What an action leaves as it is comes next:
a mailbox stays with its feed (`feedOf_act`), and only who reads it can stop to (`isRead_act`).
-/

namespace LiveFind

/-- The mailbox is the other one with another content at most: the feed, the room and the reader are
the same. -/
def Mailbox.Keeps {α : Type} (box box' : Mailbox α) : Prop :=
  box'.feed = box.feed ∧ box'.capacity = box.capacity ∧ box'.hasReader = box.hasReader

theorem Mailbox.Keeps.rfl {α : Type} {box : Mailbox α} : box.Keeps box :=
  ⟨Eq.refl _, Eq.refl _, Eq.refl _⟩

theorem Mailbox.keeps_await {α : Type} (box : Mailbox α) (i : BroadcastId) :
    box.Keeps (box.await i) := by
  rw [await]
  split
  · exact .rfl
  · exact ⟨Eq.refl _, Eq.refl _, Eq.refl _⟩

theorem Mailbox.queue_await {α : Type} (box : Mailbox α) (i : BroadcastId) :
    (box.await i).queue = box.queue := by
  rw [await]
  split <;> exact Eq.refl _

/-- The other feed is this one at a later time: it has the same capacity, and no holder less. -/
def Feed.Keeps (f f' : Feed) : Prop :=
  f'.capacity = f.capacity ∧ f.holders ≤ f'.holders

theorem Feed.Keeps.rfl {f : Feed} : f.Keeps f :=
  ⟨Eq.refl _, Nat.le_refl _⟩

namespace Exchange

/-- What can happen in an exchange. -/
inductive Action (α : Type)
  | openFeed (capacity : Nat)
  | hold (feed : FeedId)
  | release (feed : FeedId)
  | close (feed : FeedId)
  | subscribe (feed : FeedId)
  | unsubscribe (feed : FeedId) (number : Nat)
  | receive (mailbox : MailboxId)
  | discard (mailbox : MailboxId)
  | announce (feed : FeedId) (c : Change α)
  /-- One step of a broadcast. -/
  | advance (broadcast : BroadcastId)
  | abandon (broadcast : BroadcastId)

variable {α : Type}

/-- The exchange after an action. What fails leaves it as it is. -/
def act (x : Exchange α) : Action α → Exchange α
  | .openFeed capacity => (x.openFeed capacity).2
  | .hold feed => x.hold feed
  | .release feed => x.release feed
  | .close feed => x.close feed
  | .subscribe feed => (x.subscribe feed).2
  | .unsubscribe feed number => x.unsubscribe feed number
  | .receive mailbox => (x.receive mailbox).2
  | .discard mailbox => x.discard mailbox
  | .announce feed c => (x.announce feed c).2
  | .advance broadcast => (x.advance broadcast).2.2
  | .abandon broadcast => x.abandon broadcast

/-! ### Objects by their index -/

/-- A list with one more object has the old ones where they were. -/
theorem getElem?_concat_of_some {β : Type} {l : List β} {i : Nat} {b : β} (h : l[i]? = some b)
    (a : β) : (l ++ [a])[i]? = some b :=
  (List.getElem?_append_left (List.getElem?_eq_some_iff.1 h).1).trans h

theorem getElem?_concat_cases {β : Type} {l : List β} {i : Nat} {a b : β}
    (h : (l ++ [a])[i]? = some b) : l[i]? = some b ∨ i = l.length ∧ b = a := by
  rw [List.getElem?_append] at h
  split at h
  · exact .inl h
  · rw [List.getElem?_singleton] at h
    split at h
    · exact .inr ⟨by omega, (Option.some.inj h).symm⟩
    · cases h

/-- Where one object was changed, each comes from the one that stood in its place. -/
theorem exists_of_getElem?_modify {β : Type} {l : List β} {i j : Nat} {g : β → β} {b' : β}
    (h : (l.modify i g)[j]? = some b') :
    ∃ b, l[j]? = some b ∧ b' = if i = j then g b else b := by
  rw [List.getElem?_modify] at h
  obtain ⟨b, hb, rfl⟩ := Option.map_eq_some_iff.1 h
  exact ⟨b, hb, rfl⟩

theorem getElem?_modify_of_some {β : Type} {l : List β} {j : Nat} {b : β} (h : l[j]? = some b)
    (i : Nat) (g : β → β) : (l.modify i g)[j]? = some (if i = j then g b else b) := by
  rw [List.getElem?_modify, h]
  rfl

theorem modify_congr {β : Type} {l : List β} {i : Nat} {b : β} (hb : l[i]? = some b)
    {g k : β → β} (h : g b = k b) : l.modify i g = l.modify i k := by
  refine List.ext_getElem? fun j ↦ ?_
  rw [List.getElem?_modify, List.getElem?_modify]
  by_cases hij : i = j
  · subst hij
    rw [hb]
    simp [h]
  · simp [hij]

/-! ### The steps of a broadcast -/

/-- The feed that a mailbox belongs to. -/
def feedOf (x : Exchange α) (mailbox : MailboxId) : Option FeedId :=
  (x.mailboxes[mailbox]?).map (·.feed)

/-- Whether somebody reads a mailbox. -/
def isRead (x : Exchange α) (mailbox : MailboxId) : Bool :=
  (x.mailboxes[mailbox]?).any (·.hasReader)

/-- The changes in a mailbox, in the order in which they came. -/
def queued (x : Exchange α) (mailbox : MailboxId) : List (Change α) :=
  (x.mailboxes[mailbox]?).elim [] (·.queue)

/-- Reading a mailbox takes the oldest change, or tells that there is none. -/
theorem receive_cases (x : Exchange α) (mailbox : MailboxId) :
    (x.queued mailbox = [] ∧ (x.receive mailbox).2 = x ∧
        ((x.receive mailbox).1 = .empty ∨ (x.receive mailbox).1 = .ended ∧
          ∀ feed, x.feedOf mailbox = some feed → x.connected mailbox = false)) ∨
      ∃ c rest, x.queued mailbox = c :: rest ∧
        x.receive mailbox =
          (.change c, x.updateMailbox mailbox fun m ↦ { m with queue := rest }) := by
  cases hbox : x.mailboxes[mailbox]? with
  | none =>
    simp only [receive, queued, feedOf, hbox, Option.elim_none]
    exact .inl ⟨trivial, trivial, .inr ⟨trivial, fun feed h ↦ by cases h⟩⟩
  | some m =>
    cases hqueue : m.queue with
    | nil =>
      simp only [receive, queued, hbox, hqueue, Option.elim_some]
      refine .inl ⟨trivial, trivial, ?_⟩
      split
      · exact .inl rfl
      · rename_i h
        exact .inr ⟨rfl, fun _ _ ↦ by simpa using h⟩
    | cons c rest =>
      simp only [receive, queued, hbox, hqueue, Option.elim_some]
      exact .inr ⟨c, rest, rfl, rfl⟩

/-- What one step of a broadcast can make of an exchange. -/
inductive Advances (x : Exchange α) (i : BroadcastId) : Exchange α → Prop
  /-- There is nothing to do. -/
  | idle (hfresh : ∀ b, x.broadcasts[i]? = some b → b.stage ≠ .fresh) : Advances x i x
  /-- Fix the subscriptions. -/
  | fix {b : Broadcast α} (hb : x.broadcasts[i]? = some b) (hstage : b.stage = .fresh) :
      Advances x i (x.updateBroadcast i fun b' ↦
        { b' with stage := .sending, targets := (x.feeds[b.feed]?).elim [] (·.subscribers) })
  /-- Pass over a reader that is gone. -/
  | pass {b : Broadcast α} {number : Nat} {mailbox : MailboxId} {rest : List (Nat × MailboxId)}
      (hb : x.broadcasts[i]? = some b) (hstage : b.stage = .sending)
      (htargets : b.targets = (number, mailbox) :: rest) (hread : x.isRead mailbox = false) :
      Advances x i ((x.updateMailbox mailbox (·.forget i)).updateBroadcast i fun b' ↦
        { b' with targets := rest, gone := b'.gone ++ [number] })
  /-- Put the change into a mailbox. -/
  | serve {b : Broadcast α} {number : Nat} {mailbox : MailboxId} {rest : List (Nat × MailboxId)}
      (hb : x.broadcasts[i]? = some b) (hstage : b.stage = .sending)
      (htargets : b.targets = (number, mailbox) :: rest) (hread : x.isRead mailbox = true)
      (hadmits : (x.mailboxes[mailbox]?).any (·.admits i) = true) :
      Advances x i ((x.updateMailbox mailbox (·.push i b.change)).updateBroadcast i fun b' ↦
        { b' with targets := rest, delivered := b'.delivered + 1 })
  /-- Wait for room in a mailbox. -/
  | await {b : Broadcast α} (hb : x.broadcasts[i]? = some b) (hstage : b.stage = .sending)
      (mailbox : MailboxId) : Advances x i (x.updateMailbox mailbox (·.await i))
  /-- End the subscriptions whose reader was gone. -/
  | finish {b : Broadcast α} (hb : x.broadcasts[i]? = some b) (hstage : b.stage = .sending)
      (htargets : b.targets = []) :
      Advances x i ((x.updateFeed b.feed fun f ↦ { f with
          subscribers := f.subscribers.filter fun s ↦ !b.gone.contains s.1 }).updateBroadcast i
        fun b' ↦ { b' with stage := .done })

theorem advances_advance (x : Exchange α) (i : BroadcastId) : x.Advances i (x.advance i).2.2 := by
  -- only a fresh broadcast fixes its subscriptions
  have hidle : ∀ {b}, x.broadcasts[i]? = some b → b.stage ≠ .fresh → x.Advances i x :=
    fun hb hstage ↦ .idle fun b' hb' ↦ by
      rw [hb, Option.some.injEq] at hb'
      exact hb' ▸ hstage
  rw [advance]
  split
  · rename_i hnone
    refine .idle fun b hb ↦ ?_
    rw [hnone] at hb
    cases hb
  · rename_i b hb
    split
    · exact .fix hb ‹_›
    · rename_i hstage
      split
      · rename_i target rest htargets
        obtain ⟨number, mailbox⟩ := target
        rw [sendNext]
        split
        · exact hidle hb (by rw [hstage]; exact Stage.noConfusion)
        · rename_i box hbox
          have hread : x.isRead mailbox = box.hasReader := by rw [isRead, hbox, Option.any_some]
          split
          · exact .pass hb hstage htargets (by simpa [hread] using ‹(!box.hasReader) = true›)
          · split
            · rename_i hadmits
              exact .serve hb hstage htargets (by simpa [hread] using ‹¬(!box.hasReader) = true›)
                (by rw [hbox, Option.any_some, hadmits])
            · exact .await hb hstage mailbox
      · exact .finish hb hstage ‹_›
    · rename_i hstage
      exact hidle hb (by rw [hstage]; exact Stage.noConfusion)
    · rename_i hstage
      exact hidle hb (by rw [hstage]; exact Stage.noConfusion)

theorem feeds_act_receive (x : Exchange α) (mailbox : MailboxId) :
    (x.act (.receive mailbox)).feeds = x.feeds := by
  rw [act]
  rcases x.receive_cases mailbox with ⟨-, heq, -⟩ | ⟨c, rest, -, heq⟩ <;> rw [heq]
  rfl

/-! ### Subscribing -/

/-- The exchange with one more subscription of a feed. -/
def withSubscription (x : Exchange α) (feed : FeedId) (f : Feed) : Exchange α :=
  ({ x with mailboxes := x.mailboxes ++ [{ feed, capacity := f.capacity }] } :
    Exchange α).updateFeed feed fun f ↦
      { f with
        nextNumber := f.nextNumber + 1
        subscribers := f.subscribers ++ [(f.nextNumber, x.mailboxes.length)] }

theorem subscribe_cases (x : Exchange α) (feed : FeedId) :
    (∃ fault, (x.subscribe feed).1 = .error fault ∧ ((x.subscribe feed).2 = x ∨
        (x.subscribe feed).2 =
          x.updateFeed feed fun f ↦ { f with nextNumber := f.nextNumber + 1 })) ∨
      ∃ f, x.feeds[feed]? = some f ∧ f.closed = false ∧
        x.subscribe feed =
          (.ok ⟨f.nextNumber, x.mailboxes.length⟩, x.withSubscription feed f) := by
  rw [subscribe]
  split
  · exact .inl ⟨_, rfl, .inl rfl⟩
  · rename_i f hf
    split
    · exact .inl ⟨_, rfl, .inl rfl⟩
    · rename_i hclosed
      split
      · exact .inl ⟨_, rfl, .inr rfl⟩
      · exact .inr ⟨f, hf, by simpa using hclosed, rfl⟩

/-! ### What stays with a mailbox -/

section Mailboxes

variable {x : Exchange α} {mailbox : MailboxId} {box : Mailbox α}

theorem feedOf_updateMailbox {g : Mailbox α → Mailbox α} (hg : ∀ box, (g box).feed = box.feed)
    (m : MailboxId) : (x.updateMailbox m g).feedOf = x.feedOf := by
  funext mailbox
  rw [feedOf, feedOf, updateMailbox, List.getElem?_modify]
  cases x.mailboxes[mailbox]? with
  | none => rfl
  | some box => by_cases hm : m = mailbox <;> simp [hm, hg]

theorem isRead_updateMailbox {g : Mailbox α → Mailbox α}
    (hg : ∀ box, (g box).hasReader = true → box.hasReader = true) (m : MailboxId)
    (h : x.isRead mailbox = false) : (x.updateMailbox m g).isRead mailbox = false := by
  rw [isRead, updateMailbox, List.getElem?_modify]
  cases hbox : x.mailboxes[mailbox]? with
  | none => rfl
  | some box =>
    rw [isRead, hbox, Option.any_some] at h
    by_cases hm : m = mailbox
    · have hnone : (g box).hasReader = false :=
        Bool.eq_false_iff.2 fun hread ↦ Bool.false_ne_true (h.symm.trans (hg box hread))
      simpa [hm] using hnone
    · simpa [hm] using h

theorem feedOf_map_forget (x : Exchange α) (i : BroadcastId) :
    ({ x with mailboxes := x.mailboxes.map fun m ↦ m.forget i } : Exchange α).feedOf =
      x.feedOf := by
  funext m
  rw [feedOf, feedOf, List.getElem?_map, Option.map_map]
  rfl

theorem isRead_map_forget (x : Exchange α) (i : BroadcastId) (m : MailboxId) :
    ({ x with mailboxes := x.mailboxes.map fun m ↦ m.forget i } : Exchange α).isRead m =
      x.isRead m := by
  rw [isRead, isRead, List.getElem?_map, Option.any_map]
  rfl

theorem exists_updateMailbox {g : Mailbox α → Mailbox α} (hg : ∀ box : Mailbox α, box.Keeps (g box))
    (m : MailboxId) (hbox : x.mailboxes[mailbox]? = some box) :
    ∃ box', (x.updateMailbox m g).mailboxes[mailbox]? = some box' ∧ box.Keeps box' := by
  by_cases hm : m = mailbox
  · subst hm
    refine ⟨g box, ?_, hg box⟩
    rw [updateMailbox, List.getElem?_modify_eq, hbox]
    rfl
  · refine ⟨box, ?_, .rfl⟩
    rw [updateMailbox, List.getElem?_modify_ne _ _ hm, hbox]

/-- All actions but one leave who reads a mailbox as it is. -/
theorem exists_mailbox_act {a : Action α} (ha : a ≠ .discard mailbox)
    (hbox : x.mailboxes[mailbox]? = some box) :
    ∃ box', (x.act a).mailboxes[mailbox]? = some box' ∧ box.Keeps box' := by
  cases a with
  | subscribe feed =>
    refine ⟨box, ?_, .rfl⟩
    rw [act, subscribe]
    split
    · exact hbox
    · split
      · exact hbox
      · split
        · exact hbox
        · exact getElem?_concat_of_some hbox _
  | receive m =>
    rw [act, receive]
    split
    · exact ⟨box, hbox, .rfl⟩
    · split
      · refine exists_updateMailbox (fun _ ↦ ?_) m hbox
        exact ⟨rfl, rfl, rfl⟩
      · exact ⟨box, hbox, .rfl⟩
  | discard m =>
    have hm : m ≠ mailbox := fun h ↦ ha (h ▸ rfl)
    exact ⟨box, (List.getElem?_modify_ne _ _ hm).trans hbox, .rfl⟩
  | advance i =>
    have hadvances := x.advances_advance i
    rw [act]
    generalize (x.advance i).2.2 = x' at hadvances ⊢
    cases hadvances with
    | idle | fix | finish => exact ⟨box, hbox, .rfl⟩
    | pass | serve =>
      refine exists_updateMailbox (fun _ ↦ ?_) _ hbox
      exact ⟨rfl, rfl, rfl⟩
    | await _ _ m => exact exists_updateMailbox (·.keeps_await i) m hbox
  | abandon i =>
    rw [act, abandon]
    split
    · exact ⟨box, hbox, .rfl⟩
    · split
      · refine ⟨box.forget i, ?_, rfl, rfl, rfl⟩
        exact List.getElem?_map.trans (congrArg _ hbox)
      · exact ⟨box, hbox, .rfl⟩
  | openFeed | hold | release | close | unsubscribe | announce => exact ⟨box, hbox, .rfl⟩

/-- A mailbox stays with its feed. -/
theorem feedOf_act (a : Action α) {feed : FeedId} (h : x.feedOf mailbox = some feed) :
    (x.act a).feedOf mailbox = some feed := by
  obtain ⟨box, hbox, rfl⟩ := Option.map_eq_some_iff.1 h
  by_cases ha : a = .discard mailbox
  · subst ha
    rw [feedOf, act, discard, updateMailbox, List.getElem?_modify_eq, hbox]
    rfl
  · obtain ⟨box', hbox', hfeed, -⟩ := exists_mailbox_act ha hbox
    rw [feedOf, hbox', Option.map_some, hfeed]

theorem isRead_act {a : Action α} (ha : a ≠ .discard mailbox) {feed : FeedId}
    (h : x.feedOf mailbox = some feed) : (x.act a).isRead mailbox = x.isRead mailbox := by
  obtain ⟨box, hbox, -⟩ := Option.map_eq_some_iff.1 h
  obtain ⟨box', hbox', -, -, hread⟩ := exists_mailbox_act ha hbox
  rw [isRead, isRead, hbox, hbox', Option.any_some, Option.any_some, hread]

theorem feedOf_discard (m : MailboxId) : (x.discard m).feedOf = x.feedOf := by
  refine feedOf_updateMailbox (fun _ ↦ ?_) m
  rfl

theorem isRead_discard : (x.discard mailbox).isRead mailbox = false := by
  rw [isRead, discard, updateMailbox, List.getElem?_modify_eq]
  cases x.mailboxes[mailbox]? <;> rfl

/-- Nobody comes back to read a mailbox. -/
theorem isRead_act_eq_false (a : Action α) {feed : FeedId} (h : x.feedOf mailbox = some feed)
    (hread : x.isRead mailbox = false) : (x.act a).isRead mailbox = false := by
  by_cases ha : a = .discard mailbox
  · subst ha
    exact isRead_discard
  · rw [isRead_act ha h, hread]

end Mailboxes

/-! ### What stays with a feed -/

section Feeds

variable {x : Exchange α} {feed : FeedId} {f : Feed}

/-- Whether the feed is closed. -/
def isClosed (x : Exchange α) (feed : FeedId) : Bool :=
  (x.feeds[feed]?).any (·.closed)

theorem isClosed_of_some (hf : x.feeds[feed]? = some f) : x.isClosed feed = f.closed := by
  rw [isClosed, hf, Option.any_some]

theorem exists_feed_updateFeed (hf : x.feeds[feed]? = some f) (i : FeedId) {g : Feed → Feed}
    (hg : f.Keeps (g f)) :
    ∃ f', (x.updateFeed i g).feeds[feed]? = some f' ∧ f.Keeps f' := by
  refine ⟨_, getElem?_modify_of_some hf i g, ?_⟩
  split
  · exact hg
  · exact .rfl

/-- All actions but one leave a feed its holders. -/
theorem exists_feed_act {a : Action α} (ha : a ≠ .release feed) (hf : x.feeds[feed]? = some f) :
    ∃ f', (x.act a).feeds[feed]? = some f' ∧ f.Keeps f' := by
  have hsame : ∀ {x' : Exchange α}, x'.feeds = x.feeds →
      ∃ f', x'.feeds[feed]? = some f' ∧ f.Keeps f' :=
    fun h ↦ ⟨f, h ▸ hf, .rfl⟩
  cases a with
  | openFeed capacity => exact ⟨f, getElem?_concat_of_some hf _, .rfl⟩
  | hold i => exact exists_feed_updateFeed hf i ⟨rfl, Nat.le_succ _⟩
  | release i =>
    have hi : i ≠ feed := fun hi ↦ ha (hi ▸ rfl)
    exact ⟨f, (List.getElem?_modify_ne _ _ hi).trans hf, .rfl⟩
  | close i | unsubscribe i => exact exists_feed_updateFeed hf i ⟨rfl, Nat.le_refl _⟩
  | subscribe i =>
    rw [act]
    rcases x.subscribe_cases i with ⟨-, -, heq | heq⟩ | ⟨f₀, -, -, heq⟩ <;> rw [heq]
    · exact hsame rfl
    · exact exists_feed_updateFeed hf i ⟨rfl, Nat.le_refl _⟩
    · exact exists_feed_updateFeed (x := { x with mailboxes := _ }) hf i ⟨rfl, Nat.le_refl _⟩
  | receive m => exact hsame (x.feeds_act_receive m)
  | discard m | announce i c => exact hsame rfl
  | advance i =>
    have hadvances := x.advances_advance i
    rw [act]
    generalize (x.advance i).2.2 = x' at hadvances ⊢
    cases hadvances with
    | idle | fix | pass | serve | await => exact hsame rfl
    | @finish b => exact exists_feed_updateFeed hf b.feed ⟨rfl, Nat.le_refl _⟩
  | abandon i =>
    rw [act, abandon]
    split
    · exact hsame rfl
    · split <;> exact hsame rfl

theorem isClosed_updateFeed {g : Feed → Feed} (hg : ∀ f, (g f).closed = f.closed) (i : FeedId) :
    (x.updateFeed i g).isClosed feed = x.isClosed feed := by
  rw [isClosed, isClosed, updateFeed, List.getElem?_modify]
  cases x.feeds[feed]? with
  | none => rfl
  | some f => by_cases hi : i = feed <;> simp [hi, hg]

/-- A feed closes by one action only. -/
theorem isClosed_act_of_ne {a : Action α} (ha : a ≠ .close feed) :
    (x.act a).isClosed feed = x.isClosed feed := by
  cases a with
  | openFeed capacity =>
    show ((x.feeds ++ [_])[feed]?).any _ = (x.feeds[feed]?).any _
    cases hf : x.feeds[feed]? with
    | some f => rw [getElem?_concat_of_some hf]
    | none =>
      rw [List.getElem?_append_right (List.getElem?_eq_none_iff.1 hf), List.getElem?_singleton]
      split <;> rfl
  | hold i | release i | unsubscribe i =>
    refine isClosed_updateFeed (fun _ ↦ ?_) i
    rfl
  | close i =>
    have hi : i ≠ feed := fun hi ↦ ha (hi ▸ rfl)
    exact congrArg _ (List.getElem?_modify_ne _ _ hi)
  | subscribe i =>
    rw [act]
    rcases x.subscribe_cases i with ⟨-, -, heq | heq⟩ | ⟨f₀, -, -, heq⟩ <;> rw [heq]
    · refine isClosed_updateFeed (fun _ ↦ ?_) i
      rfl
    · refine isClosed_updateFeed (x := { x with mailboxes := _ }) (fun _ ↦ ?_) i
      rfl
  | receive m => rw [isClosed, isClosed, x.feeds_act_receive m]
  | discard | announce => rfl
  | advance i =>
    have hadvances := x.advances_advance i
    rw [act]
    generalize (x.advance i).2.2 = x' at hadvances ⊢
    cases hadvances with
    | idle | fix | pass | serve | await => rfl
    | @finish b =>
      refine isClosed_updateFeed (fun _ ↦ ?_) b.feed
      rfl
  | abandon i =>
    rw [act, abandon]
    split
    · rfl
    · split <;> rfl

theorem isClosed_act_close (hf : x.feeds[feed]? = some f) :
    (x.act (.close feed)).isClosed feed = true := by
  rw [isClosed_of_some (getElem?_modify_of_some hf feed _), if_pos rfl]

/-- What is closed stays closed. -/
theorem isClosed_act (a : Action α) (h : x.isClosed feed = true) :
    (x.act a).isClosed feed = true := by
  by_cases ha : a = .close feed
  · cases hf : x.feeds[feed]? with
    | none => rw [isClosed, hf] at h; cases h
    | some f => rw [ha, isClosed_act_close hf]
  · rw [isClosed_act_of_ne ha, h]

end Feeds

/-! ### What stays with a broadcast -/

section Broadcasts

variable {x : Exchange α} {i : BroadcastId} {b : Broadcast α}

theorem getElem?_updateBroadcast (hb : x.broadcasts[i]? = some b)
    (g : Broadcast α → Broadcast α) : (x.updateBroadcast i g).broadcasts[i]? = some (g b) := by
  rw [updateBroadcast, List.getElem?_modify_eq, hb]
  rfl

/-- Others can give a broadcast up, and do nothing else to it. -/
theorem exists_broadcast_act_of_ne {a : Action α} (ha : a ≠ .advance i)
    (hb : x.broadcasts[i]? = some b) : ∃ b', (x.act a).broadcasts[i]? = some b' ∧
      (b' = b ∨ a = .abandon i ∧ b' = { b with stage := .abandoned, targets := [] }) := by
  cases a with
  | openFeed | hold | release | close | unsubscribe | discard => exact ⟨b, hb, .inl rfl⟩
  | subscribe feed =>
    rw [act]
    rcases x.subscribe_cases feed with ⟨-, -, heq | heq⟩ | ⟨f, -, -, heq⟩ <;> rw [heq] <;>
      exact ⟨b, hb, .inl rfl⟩
  | receive m =>
    rw [act]
    rcases x.receive_cases m with ⟨-, heq, -⟩ | ⟨c, rest, -, heq⟩ <;> rw [heq] <;>
      exact ⟨b, hb, .inl rfl⟩
  | announce feed c => exact ⟨b, getElem?_concat_of_some hb _, .inl rfl⟩
  | advance j =>
    have hj : j ≠ i := fun h ↦ ha (h ▸ rfl)
    have hother : ∀ {x' : Exchange α} {g : Broadcast α → Broadcast α},
        x'.broadcasts = x.broadcasts → (x'.updateBroadcast j g).broadcasts[i]? = some b :=
      fun hsame ↦ (List.getElem?_modify_ne _ _ hj).trans (hsame ▸ hb)
    have hadvances := x.advances_advance j
    rw [act]
    generalize (x.advance j).2.2 = x' at hadvances ⊢
    cases hadvances with
    | idle | await => exact ⟨b, hb, .inl rfl⟩
    | fix | pass | serve | finish => exact ⟨b, hother rfl, .inl rfl⟩
  | abandon j =>
    rw [act, abandon]
    split
    · exact ⟨b, hb, .inl rfl⟩
    · split
      · refine ⟨_, getElem?_modify_of_some hb j _, ?_⟩
        split
        · exact .inr ⟨congrArg _ ‹j = i›, rfl⟩
        · exact .inl rfl
      · exact ⟨b, hb, .inl rfl⟩

/-- A step of a broadcast leaves it with its subscriptions fixed. -/
theorem exists_broadcast_act_advance (hb : x.broadcasts[i]? = some b) :
    ∃ b', (x.act (.advance i)).broadcasts[i]? = some b' ∧ b'.feed = b.feed ∧ b'.stage ≠ .fresh ∧
      (b'.stage = .sending → b.stage = .fresh ∨ b.stage = .sending) := by
  have hsent : ∀ {b₀}, x.broadcasts[i]? = some b₀ → b₀.stage = .sending → b.stage = .sending :=
    fun hb₀ hstage ↦ by
      rw [hb, Option.some.injEq] at hb₀
      rw [hb₀, hstage]
  have hnot : b.stage = .sending → b.stage ≠ .fresh := fun hstage ↦ by
    rw [hstage]
    exact Stage.noConfusion
  have hadvances := x.advances_advance i
  rw [act]
  generalize (x.advance i).2.2 = x' at hadvances ⊢
  cases hadvances with
  | idle hfresh => exact ⟨b, hb, rfl, hfresh b hb, .inr⟩
  | fix hb₀ hstage =>
    refine ⟨_, getElem?_updateBroadcast hb _, rfl, Stage.noConfusion, fun _ ↦ .inl ?_⟩
    rw [hb, Option.some.injEq] at hb₀
    rw [hb₀, hstage]
  | pass hb₀ hstage | serve hb₀ hstage =>
    exact ⟨_, getElem?_updateBroadcast hb _, rfl, hnot (hsent hb₀ hstage), .inr⟩
  | await hb₀ hstage => exact ⟨b, hb, rfl, hnot (hsent hb₀ hstage), .inr⟩
  | finish => exact ⟨_, getElem?_updateBroadcast hb _, rfl, Stage.noConfusion, nofun⟩

/-- A broadcast that was not there before has done nothing yet. -/
theorem eq_of_broadcast_new {a : Action α} (hnone : x.broadcasts[i]? = none)
    (hb : (x.act a).broadcasts[i]? = some b) : ∃ feed c, b = { feed, change := c } := by
  have hsame : x.broadcasts[i]? ≠ some b := by
    rw [hnone]
    nofun
  have hmodify : ∀ {j : BroadcastId} {g : Broadcast α → Broadcast α},
      (x.broadcasts.modify j g)[i]? ≠ some b := by
    intro j g h
    obtain ⟨b₀, hb₀, -⟩ := exists_of_getElem?_modify h
    rw [hnone] at hb₀
    cases hb₀
  cases a with
  | openFeed | hold | release | close | unsubscribe | discard => exact absurd hb hsame
  | subscribe feed =>
    rw [act] at hb
    rcases x.subscribe_cases feed with ⟨-, -, heq | heq⟩ | ⟨f, -, -, heq⟩ <;> rw [heq] at hb <;>
      exact absurd hb hsame
  | receive m =>
    rw [act] at hb
    rcases x.receive_cases m with ⟨-, heq, -⟩ | ⟨c, rest, -, heq⟩ <;> rw [heq] at hb <;>
      exact absurd hb hsame
  | announce feed c =>
    rcases getElem?_concat_cases hb with hb | ⟨-, rfl⟩
    · exact absurd hb hsame
    · exact ⟨feed, c, rfl⟩
  | advance j =>
    have hadvances := x.advances_advance j
    rw [act] at hb
    generalize (x.advance j).2.2 = x' at hadvances hb
    cases hadvances with
    | idle | await => exact absurd hb hsame
    | fix | pass | serve | finish => exact absurd hb hmodify
  | abandon j =>
    rw [act, abandon] at hb
    split at hb
    · exact absurd hb hsame
    · split at hb
      · exact absurd hb hmodify
      · exact absurd hb hsame

/-- What a broadcast has fixed stays fixed. -/
theorem exists_broadcast_act_of_not_fresh (hb : x.broadcasts[i]? = some b)
    (hstage : b.stage ≠ .fresh) (a : Action α) :
    ∃ b', (x.act a).broadcasts[i]? = some b' ∧ b'.stage ≠ .fresh := by
  by_cases ha : a = .advance i
  · subst ha
    obtain ⟨b', hb', -, hstage', -⟩ := exists_broadcast_act_advance hb
    exact ⟨b', hb', hstage'⟩
  · obtain ⟨b', hb', rfl | ⟨-, rfl⟩⟩ := exists_broadcast_act_of_ne ha hb
    · exact ⟨b', hb', hstage⟩
    · exact ⟨_, hb', Stage.noConfusion⟩

/-- A broadcast that sends has done so before, or has fixed its subscriptions just now. -/
theorem exists_broadcast_of_sending {b' : Broadcast α} {a : Action α}
    (h : (x.act a).broadcasts[i]? = some b') (hstage : b'.stage = .sending) :
    ∃ b, x.broadcasts[i]? = some b ∧ b'.feed = b.feed ∧
      (b.stage = .sending ∨ b.stage = .fresh ∧ a = .advance i) := by
  cases hb : x.broadcasts[i]? with
  | none =>
    obtain ⟨feed, c, rfl⟩ := eq_of_broadcast_new hb h
    cases hstage
  | some b =>
    refine ⟨b, rfl, ?_⟩
    by_cases ha : a = .advance i
    · subst ha
      obtain ⟨b₁, hb₁, hfeed, -, hsent⟩ := exists_broadcast_act_advance hb
      rw [h, Option.some.injEq] at hb₁
      subst hb₁
      exact ⟨hfeed, (hsent hstage).symm.imp_right fun hfresh ↦ ⟨hfresh, rfl⟩⟩
    · obtain ⟨b₁, hb₁, hsame⟩ := exists_broadcast_act_of_ne ha hb
      rw [h, Option.some.injEq] at hb₁
      subst hb₁
      rcases hsame with rfl | ⟨-, rfl⟩
      · exact ⟨rfl, .inl hstage⟩
      · cases hstage

end Broadcasts

end Exchange

end LiveFind
