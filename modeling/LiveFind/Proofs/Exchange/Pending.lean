import LiveFind.Proofs.Exchange.Numbering

/-!
# What a mailbox is still to get

A publisher that waits for each broadcast before it starts the next has one broadcast that sends at
a time (`Waits`, `Solo`). Then what a subscription has not read yet stands in one place or two: in
its mailbox, and, as long as the broadcast that sends has not served it, in that broadcast. `Owes`
names these changes in the order in which they come.

A step of a broadcast moves changes from the one place to the other, and only fixing the
subscriptions of an open feed adds one, at the end (`Owes.act`). So nothing is lost, repeated or
exchanged, whatever happens in between to other subscriptions.
-/

namespace LiveFind

namespace Exchange

variable {α : Type}

/-! ### One broadcast at a time -/

/-- The broadcasts of a feed start one after the other, each when the one before has come to its
end, and none is given up on its way. -/
def Waits (x : Exchange α) (feed : FeedId) : Action α → Prop
  | .advance i => ∀ b, x.broadcasts[i]? = some b → b.stage = .fresh → b.feed = feed →
      ∀ b' ∈ x.broadcasts, b'.feed = feed → b'.stage ≠ .sending
  | .abandon i => ∀ b, x.broadcasts[i]? = some b → b.feed = feed → b.stage ≠ .sending
  | _ => True

instance (x : Exchange α) (feed : FeedId) : DecidablePred (x.Waits feed)
  | .advance i => inferInstanceAs (Decidable (∀ b ∈ x.broadcasts[i]?, b.stage = .fresh →
      b.feed = feed → ∀ b' ∈ x.broadcasts, b'.feed = feed → b'.stage ≠ .sending))
  | .abandon i =>
    inferInstanceAs (Decidable (∀ b ∈ x.broadcasts[i]?, b.feed = feed → b.stage ≠ .sending))
  | .openFeed _ | .hold _ | .release _ | .close _ | .subscribe _ | .unsubscribe .. | .receive _
  | .discard _ | .announce .. => .isTrue trivial

/-- One broadcast of the feed sends at most. -/
def Solo (x : Exchange α) (feed : FeedId) : Prop :=
  ∀ (i j : BroadcastId) (b c : Broadcast α), x.broadcasts[i]? = some b →
    x.broadcasts[j]? = some c → b.stage = .sending → c.stage = .sending → b.feed = feed →
    c.feed = feed → i = j

variable {x : Exchange α} {feed : FeedId}

theorem solo_empty (feed : FeedId) : Solo ({} : Exchange α) feed := by
  intro i j b c hb
  simp at hb

/-- Only where a broadcast starts does it matter whether the publisher waits. -/
theorem Solo.act_of_advance (hx : x.Solo feed) {a : Action α}
    (ha : ∀ i, a = .advance i → x.Waits feed (.advance i)) : (x.act a).Solo feed := by
  intro i j b c hb hc hstage hstage' hfeed hfeed'
  obtain ⟨b₀, hb₀, hsame, hsent⟩ := exists_broadcast_of_sending hb hstage
  obtain ⟨c₀, hc₀, hsame', hsent'⟩ := exists_broadcast_of_sending hc hstage'
  rw [hsame] at hfeed
  rw [hsame'] at hfeed'
  -- a broadcast that starts to send does so where no other of the feed sends
  rcases hsent with hsent | ⟨hfresh, rfl⟩ <;> rcases hsent' with hsent' | ⟨hfresh', heq⟩
  · exact hx i j b₀ c₀ hb₀ hc₀ hsent hsent' hfeed hfeed'
  · exact absurd hsent (ha j heq c₀ hc₀ hfresh' hfeed' b₀ (List.mem_of_getElem? hb₀) hfeed)
  · exact absurd hsent' (ha i rfl b₀ hb₀ hfresh hfeed c₀ (List.mem_of_getElem? hc₀) hfeed')
  · exact Action.advance.inj heq

theorem Solo.act (hx : x.Solo feed) {a : Action α} (ha : x.Waits feed a) :
    (x.act a).Solo feed :=
  hx.act_of_advance fun _ h ↦ h ▸ ha

/-! ### The changes that are still to come -/

/-- The change whose broadcast an action starts: it fixes the subscriptions of the feed. -/
def starts (x : Exchange α) (feed : FeedId) : Action α → Option (Change α)
  | .advance i => (x.broadcasts[i]?).bind fun b ↦
      if b.feed = feed ∧ b.stage = .fresh then some b.change else none
  | _ => none

/-- No broadcast has a change to put into the mailbox of the subscription. -/
def Idle (x : Exchange α) (s : Nat × MailboxId) : Prop :=
  ∀ (i : BroadcastId) (b : Broadcast α), x.broadcasts[i]? = some b → b.stage = .sending →
    s ∉ b.targets

/-- What a subscription of the feed is still to get: the changes in its mailbox, and that of the
broadcast which has not served it yet. As long as the feed is open the subscription stands, and
where nobody reads the mailbox there is nothing left to come. -/
structure Owes (x : Exchange α) (feed : FeedId) (s : Nat × MailboxId) (owed : List (Change α)) :
    Prop where
  pending : (x.Idle s ∧ owed = x.queued s.2) ∨
    ∃ (i : BroadcastId) (b : Broadcast α), x.broadcasts[i]? = some b ∧ b.stage = .sending ∧
      s ∈ b.targets ∧ owed = x.queued s.2 ++ [b.change]
  listed : ∀ {f : Feed}, x.feeds[feed]? = some f → f.closed = false → s ∈ f.subscribers
  unread : x.isRead s.2 = false → owed = [] ∧ x.isClosed feed = true

variable {number : MailboxId → Nat} {s : Nat × MailboxId} {owed : List (Change α)}

/-- Where no broadcast sends any more, all that is owed is in the mailbox. -/
theorem Owes.eq_queued (ho : x.Owes feed s owed) (hidle : x.Idle s) : owed = x.queued s.2 := by
  rcases ho.pending with ⟨-, heq⟩ | ⟨i, b, hb, hstage, hs, -⟩
  · exact heq
  · exact absurd hs (hidle i b hb hstage)

/-- A broadcast that sends to the subscription is the one of its feed. -/
theorem Numbered.feed_eq_of_mem (hx : x.Numbered number) (hs : x.Belongs number feed s)
    {i : BroadcastId} {b : Broadcast α} (hb : x.broadcasts[i]? = some b) (hmem : s ∈ b.targets) :
    b.feed = feed := by
  have hb := ((hx.targets hb).2 s hmem).1
  rw [hs.1, Option.some.injEq] at hb
  exact hb.symm

/-- Subscriptions with the same mailbox are the same. -/
theorem Numbered.eq_of_mailbox (hx : x.Numbered number) (hs : x.Belongs number feed s)
    {i : BroadcastId} {b : Broadcast α} (hb : x.broadcasts[i]? = some b) {n : Nat} {m : MailboxId}
    (hmem : (n, m) ∈ b.targets) (hm : m = s.2) : (n, m) = s := by
  have hbelongs := (hx.targets hb).2 _ hmem
  exact Prod.ext (hbelongs.2.trans ((congrArg number hm).trans hs.2.symm)) hm

/-! ### Steps that do not concern a subscription -/

/-- The same broadcasts have a change to put into the mailbox of the subscription. -/
def SameSenders (x x' : Exchange α) (s : Nat × MailboxId) : Prop :=
  (x.Idle s → x'.Idle s) ∧
    ∀ (i : BroadcastId) (b : Broadcast α), x.broadcasts[i]? = some b → b.stage = .sending →
      s ∈ b.targets → ∃ b', x'.broadcasts[i]? = some b' ∧ b'.stage = .sending ∧ s ∈ b'.targets ∧
        b'.change = b.change

theorem sameSenders_of_eq {x' : Exchange α} (h : x'.broadcasts = x.broadcasts) :
    x.SameSenders x' s :=
  ⟨fun hidle i b hb ↦ hidle i b (h ▸ hb), fun _ b hb hstage hs ↦ ⟨b, h ▸ hb, hstage, hs, rfl⟩⟩

theorem sameSenders_updateBroadcast {i : BroadcastId} {b : Broadcast α}
    (hb : x.broadcasts[i]? = some b) {g : Broadcast α → Broadcast α}
    (hg : (g b).stage = .sending ∧ s ∈ (g b).targets ↔ b.stage = .sending ∧ s ∈ b.targets)
    (hchange : (g b).change = b.change) : x.SameSenders (x.updateBroadcast i g) s := by
  refine ⟨fun hidle j b' hb' hstage hs ↦ ?_, fun j b₁ hb₁ hstage hs ↦ ?_⟩
  · obtain ⟨b₁, hb₁, rfl⟩ := exists_of_getElem?_modify hb'
    split at hstage <;> rename_i hi
    · rw [if_pos hi] at hs
      rw [hi, hb₁, Option.some.injEq] at hb
      subst hb
      obtain ⟨hstage', hs'⟩ := hg.1 ⟨hstage, hs⟩
      exact hidle j b₁ hb₁ hstage' hs'
    · rw [if_neg hi] at hs
      exact hidle j b₁ hb₁ hstage hs
  · refine ⟨_, getElem?_modify_of_some hb₁ i g, ?_⟩
    split
    · rename_i hi
      rw [hi, hb₁, Option.some.injEq] at hb
      subst hb
      obtain ⟨hstage', hs'⟩ := hg.2 ⟨hstage, hs⟩
      exact ⟨hstage', hs', hchange⟩
    · exact ⟨hstage, hs, rfl⟩

/-- What leaves the mailbox, the senders and the place of the subscription in its feed as they are
leaves it what it is owed. -/
theorem Owes.frame (ho : x.Owes feed s owed) {x' : Exchange α} (hsenders : x.SameSenders x' s)
    (hqueue : x'.queued s.2 = x.queued s.2) (hread : x'.isRead s.2 = x.isRead s.2)
    (hlisted : ∀ f', x'.feeds[feed]? = some f' → f'.closed = false →
      ∃ f, x.feeds[feed]? = some f ∧ f.closed = false ∧ (s ∈ f.subscribers → s ∈ f'.subscribers))
    (hclosed : x.isClosed feed = true → x'.isClosed feed = true) : x'.Owes feed s owed := by
  refine ⟨?_, fun hf' hopen ↦ ?_, fun hnone ↦ ?_⟩
  · rw [hqueue]
    rcases ho.pending with ⟨hidle, heq⟩ | ⟨i, b, hb, hstage, hs, heq⟩
    · exact .inl ⟨hsenders.1 hidle, heq⟩
    · obtain ⟨b', hb', hstage', hs', hchange⟩ := hsenders.2 i b hb hstage hs
      exact .inr ⟨i, b', hb', hstage', hs', by rw [hchange, heq]⟩
  · obtain ⟨f, hf, hopen', hkeep⟩ := hlisted _ hf' hopen
    exact hkeep (ho.listed hf hopen')
  · rw [hread] at hnone
    exact ⟨(ho.unread hnone).1, hclosed (ho.unread hnone).2⟩

theorem Owes.frame_of_feeds (ho : x.Owes feed s owed) {x' : Exchange α}
    (hfeeds : x'.feeds = x.feeds) (hsenders : x.SameSenders x' s)
    (hqueue : x'.queued s.2 = x.queued s.2) (hread : x'.isRead s.2 = x.isRead s.2) :
    x'.Owes feed s owed := by
  refine ho.frame hsenders hqueue hread (fun f' hf' hopen ↦ ⟨f', hfeeds ▸ hf', hopen, id⟩) ?_
  rw [isClosed, isClosed, hfeeds]
  exact id

theorem Owes.updateBroadcast (ho : x.Owes feed s owed) {i : BroadcastId} {b : Broadcast α}
    (hb : x.broadcasts[i]? = some b) {g : Broadcast α → Broadcast α}
    (hg : (g b).stage = .sending ∧ s ∈ (g b).targets ↔ b.stage = .sending ∧ s ∈ b.targets)
    (hchange : (g b).change = b.change) : (x.updateBroadcast i g).Owes feed s owed :=
  ho.frame_of_feeds rfl (sameSenders_updateBroadcast hb hg hchange) rfl rfl

theorem queued_updateMailbox {m mailbox : MailboxId} {g : Mailbox α → Mailbox α}
    (hg : ∀ box, m = mailbox → (g box).queue = box.queue) :
    (x.updateMailbox m g).queued mailbox = x.queued mailbox := by
  rw [queued, queued, updateMailbox, List.getElem?_modify]
  cases x.mailboxes[mailbox]? with
  | none => rfl
  | some box => by_cases hm : m = mailbox <;> simp [hm, hg]

theorem isRead_updateMailbox_eq {m mailbox : MailboxId} {g : Mailbox α → Mailbox α}
    (hg : ∀ box, m = mailbox → (g box).hasReader = box.hasReader) :
    (x.updateMailbox m g).isRead mailbox = x.isRead mailbox := by
  rw [isRead, isRead, updateMailbox, List.getElem?_modify]
  cases x.mailboxes[mailbox]? with
  | none => rfl
  | some box => by_cases hm : m = mailbox <;> simp [hm, hg]

/-- What is done to a mailbox concerns the subscription only if it is its own. -/
theorem Owes.updateMailbox (ho : x.Owes feed s owed) {m : MailboxId} {g : Mailbox α → Mailbox α}
    (hqueue : ∀ box, m = s.2 → (g box).queue = box.queue)
    (hread : ∀ box, m = s.2 → (g box).hasReader = box.hasReader) :
    (x.updateMailbox m g).Owes feed s owed :=
  ho.frame_of_feeds rfl (sameSenders_of_eq rfl) (queued_updateMailbox hqueue)
    (isRead_updateMailbox_eq hread)

theorem queued_push {m : MailboxId} (hread : x.isRead m = true) (i : BroadcastId)
    (c : Change α) : (x.updateMailbox m (·.push i c)).queued m = x.queued m ++ [c] := by
  rw [isRead] at hread
  rw [queued, queued, updateMailbox, List.getElem?_modify_eq]
  cases hbox : x.mailboxes[m]? with
  | none => rw [hbox] at hread; cases hread
  | some box => rfl

theorem queued_map_forget (x : Exchange α) (i : BroadcastId) (m : MailboxId) :
    ({ x with mailboxes := x.mailboxes.map fun m ↦ m.forget i } : Exchange α).queued m =
      x.queued m := by
  rw [queued, queued, List.getElem?_map]
  cases x.mailboxes[m]? <;> rfl

theorem listed_updateFeed {i : FeedId} {g : Feed → Feed}
    (hg : ∀ f, x.feeds[feed]? = some f → i = feed → (g f).closed = false →
      f.closed = false ∧ (s ∈ f.subscribers → s ∈ (g f).subscribers))
    (f' : Feed) (hf' : (x.updateFeed i g).feeds[feed]? = some f') (hopen : f'.closed = false) :
    ∃ f, x.feeds[feed]? = some f ∧ f.closed = false ∧
      (s ∈ f.subscribers → s ∈ f'.subscribers) := by
  obtain ⟨f, hf, rfl⟩ := exists_of_getElem?_modify hf'
  refine ⟨f, hf, ?_⟩
  split at hopen <;> rename_i hi
  · rw [if_pos hi]
    exact hg f hf hi hopen
  · rw [if_neg hi]
    exact ⟨hopen, id⟩

/-- What is done to other subscriptions: the mailbox is read by its reader only, and the number is
not given up as long as the feed is open. -/
def Spares (x : Exchange α) (feed : FeedId) (s : Nat × MailboxId) : Action α → Prop
  | .receive m | .discard m => m ≠ s.2
  | .unsubscribe i n => i = feed → n = s.1 → x.isClosed feed = true
  | _ => True

theorem Owes.updateFeed (ho : x.Owes feed s owed) {i : FeedId} {g : Feed → Feed}
    (hg : ∀ f, x.feeds[feed]? = some f → i = feed →
      (f.closed = true → (g f).closed = true) ∧ ((g f).closed = false →
        f.closed = false ∧ (s ∈ f.subscribers → s ∈ (g f).subscribers))) :
    (x.updateFeed i g).Owes feed s owed := by
  refine ho.frame (sameSenders_of_eq rfl) rfl rfl (listed_updateFeed fun f hf hi ↦ (hg f hf hi).2)
    fun hclosed ↦ ?_
  cases hf : x.feeds[feed]? with
  | none => rw [isClosed, hf] at hclosed; cases hclosed
  | some f =>
    rw [isClosed_of_some hf] at hclosed
    rw [isClosed_of_some (getElem?_modify_of_some hf i g)]
    split
    · exact (hg f hf ‹_›).1 hclosed
    · exact hclosed

theorem Owes.hold (ho : x.Owes feed s owed) (i : FeedId) : (x.act (.hold i)).Owes feed s owed :=
  ho.updateFeed fun _ _ _ ↦ ⟨id, fun hopen ↦ ⟨hopen, id⟩⟩

theorem Owes.release (ho : x.Owes feed s owed) (i : FeedId) :
    (x.act (.release i)).Owes feed s owed :=
  ho.updateFeed fun _ _ _ ↦ ⟨id, fun hopen ↦ ⟨hopen, id⟩⟩

/-- Another subscription does not concern this one. -/
theorem Owes.withSubscription (ho : x.Owes feed s owed) (hs : x.Belongs number feed s) (i : FeedId)
    (f : Feed) : (x.withSubscription i f).Owes feed s owed := by
  obtain ⟨box, hbox, -⟩ := Option.map_eq_some_iff.1 hs.1
  have hbox' := (getElem?_concat_of_some hbox { feed := i, capacity := f.capacity }).trans
    hbox.symm
  have ho' : ({ x with mailboxes := x.mailboxes ++ [{ feed := i, capacity := f.capacity }] } :
      Exchange α).Owes feed s owed := by
    refine ho.frame_of_feeds rfl (sameSenders_of_eq rfl) ?_ ?_
    · rw [queued, queued, hbox']
    · rw [isRead, isRead, hbox']
  exact ho'.updateFeed fun f _ _ ↦ ⟨id, fun h ↦ ⟨h, List.mem_append_left _⟩⟩

/-- What happens beside the steps of broadcasts does not change what a subscription is owed. -/
theorem Owes.act_of_not_advance (ho : x.Owes feed s owed) (hx : x.Numbered number)
    (hs : x.Belongs number feed s) {a : Action α} (hspares : x.Spares feed s a)
    (hwaits : x.Waits feed a) (ha : ∀ i, a ≠ .advance i) : (x.act a).Owes feed s owed := by
  cases a with
  | openFeed capacity =>
    refine ho.frame (sameSenders_of_eq rfl) rfl rfl (fun f' hf' hopen ↦ ?_)
      (isClosed_act (.openFeed capacity))
    -- the new feed is not this one, which has a mailbox already
    rcases getElem?_concat_cases hf' with hf | ⟨hlast, -⟩
    · exact ⟨f', hf, hopen, id⟩
    · obtain ⟨f, hf, -⟩ := hx.lt_next hs.1
      exact absurd (List.getElem?_eq_some_iff.1 hf).1 (by omega)
  | hold i => exact ho.hold i
  | release i => exact ho.release i
  | close i => exact ho.updateFeed fun f _ _ ↦ ⟨fun _ ↦ rfl, fun h ↦ by cases h⟩
  | subscribe i =>
    rw [act]
    rcases x.subscribe_cases i with ⟨-, -, heq | heq⟩ | ⟨f, -, -, heq⟩ <;> rw [heq]
    · exact ho
    · exact ho.updateFeed fun f _ _ ↦ ⟨id, fun h ↦ ⟨h, id⟩⟩
    · exact ho.withSubscription hs i f
  | unsubscribe i n =>
    refine ho.updateFeed fun f hf hi ↦ ⟨id, fun h ↦ ⟨h, fun hmem ↦ ?_⟩⟩
    refine List.mem_filter.2 ⟨hmem, bne_iff_ne.2 fun hn ↦ ?_⟩
    have hclosed := hspares hi hn.symm
    rw [isClosed_of_some hf, show f.closed = false from h] at hclosed
    cases hclosed
  | receive m =>
    rw [act]
    rcases x.receive_cases m with ⟨-, heq, -⟩ | ⟨c, rest, -, heq⟩ <;> rw [heq]
    · exact ho
    · exact ho.updateMailbox (fun _ hm ↦ absurd hm hspares) fun _ hm ↦ absurd hm hspares
  | discard m =>
    exact ho.updateMailbox (fun _ hm ↦ absurd hm hspares) fun _ hm ↦ absurd hm hspares
  | announce i c =>
    refine ho.frame_of_feeds rfl ⟨fun hidle j b hb hstage ↦ ?_, fun j b hb hstage hmem ↦ ?_⟩
      rfl rfl
    · -- the new broadcast does not send yet
      rcases getElem?_concat_cases hb with hb | ⟨-, rfl⟩
      · exact hidle j b hb hstage
      · cases hstage
    · exact ⟨b, getElem?_concat_of_some hb _, hstage, hmem, rfl⟩
  | advance i => exact absurd rfl (ha i)
  | abandon i =>
    rw [act, abandon]
    split
    · exact ho
    · rename_i b hb
      split
      · have ho' : ({ x with mailboxes := x.mailboxes.map fun m ↦ m.forget i } :
            Exchange α).Owes feed s owed :=
          ho.frame_of_feeds rfl (sameSenders_of_eq rfl) (queued_map_forget x i s.2)
            (isRead_map_forget x i s.2)
        refine ho'.updateBroadcast hb ⟨fun h ↦ absurd h.1 Stage.noConfusion, fun h ↦ ?_⟩ rfl
        -- no broadcast of the feed is given up while it sends
        exact absurd h.1 (hwaits b hb (hx.feed_eq_of_mem hs hb h.2))
      · exact ho

/-! ### The steps of a broadcast -/

theorem starts_advance_eq_none {i : BroadcastId}
    (h : ∀ b, x.broadcasts[i]? = some b → b.stage ≠ .fresh) :
    x.starts feed (.advance i) = none := by
  rw [starts]
  cases hb : x.broadcasts[i]? with
  | none => rfl
  | some b => exact if_neg fun hfresh ↦ h b hb hfresh.2

theorem starts_advance_of_fresh {i : BroadcastId} {b : Broadcast α}
    (hb : x.broadcasts[i]? = some b) (hstage : b.stage = .fresh) :
    x.starts feed (.advance i) = if b.feed = feed then some b.change else none := by
  rw [starts, hb]
  simp [hstage]

/-- Where a broadcast of the feed is about to start, nobody sends. -/
theorem idle_of_waits (hx : x.Numbered number) (hs : x.Belongs number feed s) {i : BroadcastId}
    {b : Broadcast α} (hb : x.broadcasts[i]? = some b) (hstage : b.stage = .fresh)
    (hfeed : b.feed = feed) (hwaits : x.Waits feed (.advance i)) : x.Idle s :=
  fun _ _ hb' hstage' hmem ↦
    hwaits b hb hstage hfeed _ (List.mem_of_getElem? hb') (hx.feed_eq_of_mem hs hb' hmem) hstage'

/-- Fixing the subscriptions of an open feed adds the change to what each of them is owed. -/
theorem Owes.fix (ho : x.Owes feed s owed) (hx : x.Numbered number)
    (hs : x.Belongs number feed s) {i : BroadcastId} {b : Broadcast α}
    (hb : x.broadcasts[i]? = some b) (hstage : b.stage = .fresh)
    (hwaits : x.Waits feed (.advance i)) :
    (x.updateBroadcast i fun b' ↦ { b' with
        stage := .sending
        targets := (x.feeds[b.feed]?).elim [] (·.subscribers) }).Owes feed s
      (owed ++ if x.isClosed feed then [] else (x.starts feed (.advance i)).toList) := by
  obtain ⟨f, hf, -⟩ := hx.lt_next hs.1
  rw [starts_advance_of_fresh hb hstage, isClosed_of_some hf]
  by_cases hnew : b.feed = feed ∧ f.closed = false
  · obtain ⟨rfl, hopen⟩ := hnew
    have hqueue := ho.eq_queued (idle_of_waits hx hs hb hstage rfl hwaits)
    rw [hopen, if_neg Bool.false_ne_true, if_pos rfl, hqueue, hf]
    refine ⟨.inr ⟨i, _, getElem?_modify_of_some hb i _, ?_⟩, ho.listed, fun hnone ↦ ?_⟩
    · rw [if_pos rfl]
      exact ⟨rfl, ho.listed hf hopen, rfl⟩
    · have hclosed := (ho.unread hnone).2
      rw [isClosed_of_some hf, hopen] at hclosed
      cases hclosed
  · -- a broadcast of another feed has other targets, and a closed feed has none
    have hmem : s ∉ (x.feeds[b.feed]?).elim [] (·.subscribers) := fun hmem ↦ by
      cases hf' : x.feeds[b.feed]? with
      | none => rw [hf'] at hmem; cases hmem
      | some f' =>
        rw [hf'] at hmem
        have hfeed := ((hx.subscribers hf').2 s hmem).1
        rw [hs.1, Option.some.injEq] at hfeed
        rw [← hfeed, hf, Option.some.injEq] at hf'
        have hclosed : f'.closed = true := by
          simpa [hfeed, hf'] using hnew
        rw [Option.elim_some, hx.closed (hf'.symm ▸ hf) hclosed] at hmem
        cases hmem
    have hnone : (if f.closed = true then []
        else (if b.feed = feed then some b.change else none).toList) = [] := by
      by_cases hfeed : b.feed = feed
      · rw [if_pos (by simpa [hfeed] using hnew)]
      · rw [if_neg hfeed, Option.toList_none, ite_self]
    rw [hnone, List.append_nil]
    refine ho.updateBroadcast hb ⟨fun h ↦ absurd h.2 hmem, fun h ↦ ?_⟩ rfl
    rw [hstage] at h
    cases h.1

/-- A broadcast that serves another subscription than this one does not concern this one. -/
theorem Owes.skip (ho : x.Owes feed s owed) {i : BroadcastId} {b : Broadcast α}
    (hb : x.broadcasts[i]? = some b) {target : Nat × MailboxId} {rest : List (Nat × MailboxId)}
    (htargets : b.targets = target :: rest) (hne : s ≠ target) {g : Broadcast α → Broadcast α}
    (hg : (g b).stage = b.stage ∧ (g b).targets = rest ∧ (g b).change = b.change) :
    (x.updateBroadcast i g).Owes feed s owed := by
  refine ho.updateBroadcast hb ?_ hg.2.2
  rw [hg.1, hg.2.1, htargets, List.mem_cons, or_iff_right hne]

/-- Serving a subscription puts what it was owed last into its mailbox. -/
theorem Owes.serve (ho : x.Owes feed s owed) (hx : x.Numbered number)
    (hs : x.Belongs number feed s) (hsolo : x.Solo feed) {i : BroadcastId} {b : Broadcast α}
    (hb : x.broadcasts[i]? = some b) (hstage : b.stage = .sending)
    {rest : List (Nat × MailboxId)} (htargets : b.targets = s :: rest)
    (hread : x.isRead s.2 = true) :
    ((x.updateMailbox s.2 (·.push i b.change)).updateBroadcast i fun b' ↦
      { b' with targets := rest, delivered := b'.delivered + 1 }).Owes feed s owed := by
  have hmem : s ∈ b.targets := htargets ▸ List.mem_cons_self
  -- the broadcast at work is the only one, so it is the one that owes the last change
  have hlast : ∀ j b', x.broadcasts[j]? = some b' → b'.stage = .sending → s ∈ b'.targets →
      i = j := fun j b' hb' hstage' hmem' ↦
    hsolo i j b b' hb hb' hstage hstage' (hx.feed_eq_of_mem hs hb hmem)
      (hx.feed_eq_of_mem hs hb' hmem')
  have howed : owed = x.queued s.2 ++ [b.change] := by
    rcases ho.pending with ⟨hidle, -⟩ | ⟨j, b', hb', hstage', hmem', heq⟩
    · exact absurd hmem (hidle i b hb hstage)
    · rw [← hlast j b' hb' hstage' hmem', hb, Option.some.injEq] at hb'
      rw [heq, hb']
  refine ⟨.inl ⟨fun j b' hb' hstage' hmem' ↦ ?_, ?_⟩, ho.listed, fun hnone ↦ ?_⟩
  · obtain ⟨b₁, hb₁, rfl⟩ := exists_of_getElem?_modify hb'
    by_cases hij : i = j
    · rw [if_pos hij] at hmem'
      have hnodup := (hx.targets hb).1
      rw [htargets] at hnodup
      exact (List.nodup_cons.1 hnodup).1 hmem'
    · rw [if_neg hij] at hstage' hmem'
      exact hij (hlast j b₁ hb₁ hstage' hmem')
  · rw [howed]
    exact (queued_push hread i b.change).symm
  · have hsame : (x.updateMailbox s.2 (·.push i b.change)).isRead s.2 = x.isRead s.2 :=
      isRead_updateMailbox_eq fun _ _ ↦ rfl
    exact absurd (hnone.symm.trans (hsame.trans hread)) Bool.false_ne_true

/-- What a subscription is owed grows by the change of each broadcast that starts while the feed is
open, and by nothing else. -/
theorem Owes.advance (ho : x.Owes feed s owed) (hx : x.Numbered number)
    (hs : x.Belongs number feed s) (hsolo : x.Solo feed) {i : BroadcastId}
    (hwaits : x.Waits feed (.advance i)) : (x.act (.advance i)).Owes feed s
      (owed ++ if x.isClosed feed then [] else (x.starts feed (.advance i)).toList) := by
  have hnone : (∀ b, x.broadcasts[i]? = some b → b.stage ≠ .fresh) →
      (owed ++ if x.isClosed feed then [] else (x.starts feed (.advance i)).toList) = owed :=
    fun h ↦ by rw [starts_advance_eq_none h, Option.toList_none, ite_self, List.append_nil]
  have hsending : ∀ {b}, x.broadcasts[i]? = some b → b.stage = .sending →
      ∀ b, x.broadcasts[i]? = some b → b.stage ≠ .fresh := fun hb hstage b' hb' ↦ by
    rw [hb, Option.some.injEq] at hb'
    rw [← hb', hstage]
    exact Stage.noConfusion
  have hadvances := x.advances_advance i
  rw [act]
  generalize (x.advance i).2.2 = x' at hadvances ⊢
  cases hadvances with
  | idle h => rw [hnone h]; exact ho
  | fix hb hstage => exact ho.fix hx hs hb hstage hwaits
  | @pass b n m rest hb hstage htargets hread =>
    rw [hnone (hsending hb hstage)]
    -- who is passed over does not read any more, and such a subscription is owed nothing
    have hne : s ≠ (n, m) := by
      rintro rfl
      have hnil := (ho.unread hread).1
      rcases ho.pending with ⟨hidle, -⟩ | ⟨_, _, _, _, _, heq⟩
      · exact hidle i b hb hstage (htargets ▸ List.mem_cons_self)
      · rw [hnil] at heq
        exact List.append_ne_nil_of_right_ne_nil _ (List.cons_ne_nil _ _) heq.symm
    have ho' : (x.updateMailbox m (·.forget i)).Owes feed s owed :=
      ho.updateMailbox (fun _ _ ↦ rfl) fun _ _ ↦ rfl
    exact ho'.skip hb htargets hne ⟨rfl, rfl, rfl⟩
  | @serve b n m rest hb hstage htargets hread =>
    rw [hnone (hsending hb hstage)]
    by_cases hne : s = (n, m)
    · subst hne
      exact ho.serve hx hs hsolo hb hstage htargets hread
    · have hm : m ≠ s.2 := fun hm ↦ hne
        (hx.eq_of_mailbox hs hb (htargets ▸ List.mem_cons_self) hm).symm
      have ho' : (x.updateMailbox m (·.push i b.change)).Owes feed s owed :=
        ho.updateMailbox (fun _ h ↦ absurd h hm) fun _ _ ↦ rfl
      exact ho'.skip hb htargets hne ⟨rfl, rfl, rfl⟩
  | await hb hstage m =>
    rw [hnone (hsending hb hstage)]
    exact ho.updateMailbox (fun box _ ↦ box.queue_await i) fun box _ ↦ (box.keeps_await i).2.2
  | @finish b hb hstage htargets =>
    rw [hnone (hsending hb hstage)]
    have ho' : (x.updateFeed b.feed fun f ↦ { f with
        subscribers := f.subscribers.filter fun s ↦ !b.gone.contains s.1 }).Owes feed s owed := by
      refine ho.updateFeed fun f hf hfeed ↦ ⟨id, fun hopen ↦ ⟨hopen, fun hmem ↦ ?_⟩⟩
      -- a number among those that are gone would stand for this mailbox, which is read
      have hkept : s.1 ∉ b.gone := fun hgone ↦ by
        obtain ⟨m, hm, hunread⟩ := hx.gone hb hgone
        rw [hfeed] at hm
        rw [hx.eq_of_belongs hm hs] at hunread
        have hclosed := (ho.unread hunread).2
        rw [isClosed_of_some hf, show f.closed = false from hopen] at hclosed
        cases hclosed
      exact List.mem_filter.2 ⟨hmem, by simpa using hkept⟩
    refine ho'.updateBroadcast hb ⟨fun h ↦ absurd h.1 Stage.noConfusion, fun h ↦ ?_⟩ rfl
    rw [htargets] at h
    cases h.2

/-- What the steps of everybody else make of what a subscription is owed. -/
theorem Owes.act (ho : x.Owes feed s owed) (hx : x.Numbered number)
    (hs : x.Belongs number feed s) (hsolo : x.Solo feed) {a : Action α}
    (hspares : x.Spares feed s a) (hwaits : x.Waits feed a) :
    (x.act a).Owes feed s
      (owed ++ if x.isClosed feed then [] else (x.starts feed a).toList) := by
  cases a with
  | advance i => exact ho.advance hx hs hsolo hwaits
  | _ =>
    rw [show x.starts feed _ = none from rfl, Option.toList_none, ite_self, List.append_nil]
    exact ho.act_of_not_advance hx hs hspares hwaits fun i h ↦ by cases h

/-! ### The steps of the reader -/

/-- Reading takes the first of the changes that are owed. -/
theorem Owes.receive (ho : x.Owes feed s owed) {c : Change α} {rest : List (Change α)}
    (hqueue : x.queued s.2 = c :: rest) :
    ∃ owed', owed = c :: owed' ∧ (x.act (.receive s.2)).Owes feed s owed' := by
  have hafter : ∃ g : Mailbox α → Mailbox α, (∀ box, (g box).hasReader = box.hasReader) ∧
      (x.updateMailbox s.2 g).queued s.2 = rest ∧
        x.act (.receive s.2) = x.updateMailbox s.2 g := by
    rcases x.receive_cases s.2 with ⟨hnil, -⟩ | ⟨c', rest', hqueue', heq⟩
    · rw [hqueue] at hnil
      cases hnil
    · rw [hqueue] at hqueue'
      cases hqueue'
      refine ⟨fun m ↦ { m with queue := rest }, fun _ ↦ rfl, ?_, by rw [Exchange.act, heq]⟩
      rw [queued] at hqueue
      rw [queued, Exchange.updateMailbox, List.getElem?_modify_eq]
      cases hbox : x.mailboxes[s.2]? with
      | none => rw [hbox] at hqueue; cases hqueue
      | some box => rfl
  obtain ⟨g, hreader, hqueue', heq⟩ := hafter
  have hread : (x.updateMailbox s.2 g).isRead s.2 = x.isRead s.2 :=
    isRead_updateMailbox_eq fun box _ ↦ hreader box
  rw [heq]
  -- the mailbox is not empty, so its first change is the first of those that are owed
  rcases ho.pending with ⟨hidle, howed⟩ | ⟨i, b, hb, hstage, hmem, howed⟩ <;>
    rw [hqueue] at howed
  · refine ⟨rest, howed, .inl ⟨hidle, hqueue'.symm⟩, ho.listed, fun hnone ↦ ?_⟩
    have hnil := (ho.unread (hread.symm.trans hnone)).1
    rw [howed] at hnil
    cases hnil
  · refine ⟨rest ++ [b.change], howed, .inr ⟨i, b, hb, hstage, hmem, by rw [hqueue']⟩, ho.listed,
      fun hnone ↦ ?_⟩
    have hnil := (ho.unread (hread.symm.trans hnone)).1
    rw [howed] at hnil
    cases hnil

/-- Where nothing is owed any more and the feed is closed, the reader may stop. -/
theorem Owes.discard (ho : x.Owes feed s []) (hclosed : x.isClosed feed = true) :
    (x.act (.discard s.2)).Owes feed s [] := by
  have hidle : x.Idle s := by
    rcases ho.pending with ⟨hidle, -⟩ | ⟨i, b, -, -, -, heq⟩
    · exact hidle
    · exact absurd heq (List.append_ne_nil_of_right_ne_nil _ (List.cons_ne_nil _ _)).symm
  refine ⟨.inl ⟨hidle, ?_⟩, ho.listed, fun _ ↦ ⟨rfl, hclosed⟩⟩
  show [] = (((x.mailboxes.modify _ _)[s.2]?).elim [] _)
  rw [List.getElem?_modify_eq]
  cases x.mailboxes[s.2]? <;> rfl

/-- The reader is told that nothing more can come only when that is so: no broadcast is still to
serve it, and the feed is closed, provided that somebody holds it. -/
theorem Owes.of_not_connected (ho : x.Owes feed s owed) (hs : x.Belongs number feed s)
    (hheld : x.feedHeld feed = true) (hconnected : x.connected s.2 = false)
    (hfeed : ∃ f, x.feeds[feed]? = some f) : x.Idle s ∧ x.isClosed feed = true := by
  obtain ⟨f, hf⟩ := hfeed
  obtain ⟨box, hbox, rfl⟩ := Option.map_eq_some_iff.1 hs.1
  rw [connected, hbox, Option.any_some, hheld, hf, Option.any_some, Bool.true_and,
    Bool.or_eq_false_iff] at hconnected
  obtain ⟨hlisted, hsending⟩ := hconnected
  refine ⟨fun i b hb hstage hmem ↦ ?_, ?_⟩
  · have hfalse := List.any_eq_false.1 hsending b (List.mem_of_getElem? hb)
    refine hfalse ?_
    rw [Broadcast.running, hstage]
    exact List.any_eq_true.2 ⟨s, hmem, beq_self_eq_true _⟩
  · rw [isClosed_of_some hf]
    cases hopen : f.closed with
    | true => rfl
    | false =>
      exact absurd (beq_self_eq_true s.2) (List.any_eq_false.1 hlisted s (ho.listed hf hopen))

/-- A new subscription is owed nothing yet. -/
theorem Numbered.owes_withSubscription (hx : x.Numbered number) {f : Feed}
    (hf : x.feeds[feed]? = some f) :
    (x.withSubscription feed f).Owes feed (f.nextNumber, x.mailboxes.length) [] := by
  refine ⟨.inl ⟨fun i b hb _ hmem ↦ ?_, ?_⟩, fun {f'} hf' _ ↦ ?_, fun hnone ↦ ?_⟩
  · exact ne_length_of_feedOf ((hx.targets hb).2 _ hmem).1 rfl
  · show [] = (((x.mailboxes ++ [_])[x.mailboxes.length]?).elim [] _)
    rw [List.getElem?_concat_length]
    rfl
  · obtain ⟨f₁, hf₁, rfl⟩ := exists_of_getElem?_modify hf'
    rw [show _ = some f₁ from hf₁, Option.some.injEq] at hf
    rw [if_pos rfl, ← hf]
    exact List.mem_append_right _ (List.mem_singleton_self _)
  · rw [isRead_withSubscription_length] at hnone
    cases hnone

end Exchange

end LiveFind
