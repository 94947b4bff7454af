import LiveFind.Proofs.Exchange.Run
import Mathlib.Logic.Function.Basic

/-!
# Numbers of subscriptions

A feed knows its subscriptions by numbers, and gives a number only once. Where a subscription has
ended, its mailbox no longer says which number it had, so `Numbered` keeps a numbering of all
mailboxes beside the exchange: different mailboxes of a feed have different numbers, all smaller
than the next one, and wherever a number stands beside a mailbox the two belong together.

The invariant is kept by every action (`Numbered.act`), and the numbers of the mailboxes that there
are already never change. It rests on two facts: subscribing takes a number that no mailbox of the
feed has, and everything else only moves pairs from the subscriptions of a feed to the targets of a
broadcast or takes some away.
-/

namespace LiveFind

namespace Exchange

variable {α : Type}

/-- The mailbox is one of the feed and has this number. -/
def Belongs (x : Exchange α) (number : MailboxId → Nat) (feed : FeedId) (s : Nat × MailboxId) :
    Prop :=
  x.feedOf s.2 = some feed ∧ s.1 = number s.2

/-- The mailboxes are numbered so that those of one feed have different numbers. -/
structure Numbered (x : Exchange α) (number : MailboxId → Nat) : Prop where
  lt_next : ∀ {mailbox : MailboxId} {feed : FeedId}, x.feedOf mailbox = some feed →
    ∃ f, x.feeds[feed]? = some f ∧ number mailbox < f.nextNumber
  injective : ∀ {m m' : MailboxId} {feed : FeedId}, x.feedOf m = some feed →
    x.feedOf m' = some feed → number m = number m' → m = m'
  subscribers : ∀ {feed : FeedId} {f : Feed}, x.feeds[feed]? = some f →
    f.subscribers.Nodup ∧ ∀ s ∈ f.subscribers, x.Belongs number feed s
  closed : ∀ {feed : FeedId} {f : Feed}, x.feeds[feed]? = some f → f.closed = true →
    f.subscribers = []
  targets : ∀ {i : BroadcastId} {b : Broadcast α}, x.broadcasts[i]? = some b →
    b.targets.Nodup ∧ ∀ s ∈ b.targets, x.Belongs number b.feed s
  gone : ∀ {i : BroadcastId} {b : Broadcast α} {n : Nat}, x.broadcasts[i]? = some b → n ∈ b.gone →
    ∃ mailbox, x.Belongs number b.feed (n, mailbox) ∧ x.isRead mailbox = false

variable {x : Exchange α} {number : MailboxId → Nat}

theorem numbered_empty (number : MailboxId → Nat) : Numbered ({} : Exchange α) number := by
  constructor <;> simp [feedOf]

/-- On one feed, a number stands for one mailbox. -/
theorem Numbered.eq_of_belongs (hx : x.Numbered number) {feed : FeedId} {n : Nat}
    {m m' : MailboxId} (h : x.Belongs number feed (n, m)) (h' : x.Belongs number feed (n, m')) :
    m = m' :=
  hx.injective h.1 h'.1 (h.2.symm.trans h'.2)

/-! ### Changing one object -/

/-- The content of the mailboxes does not matter, and readers may stop to read. -/
theorem Numbered.withMailboxes (hx : x.Numbered number) {mailboxes : List (Mailbox α)}
    (hfeed : ({ x with mailboxes } : Exchange α).feedOf = x.feedOf)
    (hread : ∀ m, x.isRead m = false → ({ x with mailboxes } : Exchange α).isRead m = false) :
    ({ x with mailboxes } : Exchange α).Numbered number := by
  have hbelongs : ({ x with mailboxes } : Exchange α).Belongs = x.Belongs := by
    funext number feed s
    rw [Belongs, Belongs, hfeed]
  refine ⟨?_, ?_, ?_, hx.closed, ?_, fun hb hn ↦ ?_⟩
  · rw [hfeed]; exact hx.lt_next
  · rw [hfeed]; exact hx.injective
  · rw [hbelongs]; exact hx.subscribers
  · rw [hbelongs]; exact hx.targets
  · obtain ⟨mailbox, hm, hnone⟩ := hx.gone hb hn
    exact ⟨mailbox, hbelongs ▸ hm, hread mailbox hnone⟩

theorem Numbered.updateMailbox (hx : x.Numbered number) (m : MailboxId)
    {g : Mailbox α → Mailbox α} (hfeed : ∀ box, (g box).feed = box.feed)
    (hread : ∀ box, (g box).hasReader = true → box.hasReader = true) :
    (x.updateMailbox m g).Numbered number :=
  hx.withMailboxes (feedOf_updateMailbox hfeed m) fun _ h ↦ isRead_updateMailbox hread m h

/-- A feed may lose subscriptions, and skip numbers. -/
theorem Numbered.updateFeed (hx : x.Numbered number) (feed : FeedId) {g : Feed → Feed}
    (hg : ∀ f, x.feeds[feed]? = some f → (g f).subscribers.Sublist f.subscribers ∧
      f.nextNumber ≤ (g f).nextNumber ∧ ((g f).closed = true → (g f).subscribers = [])) :
    (x.updateFeed feed g).Numbered number := by
  -- every feed after the change comes from one before it
  have hfeeds : ∀ {i : FeedId} {f' : Feed}, (x.updateFeed feed g).feeds[i]? = some f' →
      ∃ f, x.feeds[i]? = some f ∧ f'.subscribers.Sublist f.subscribers ∧
        (f'.closed = true → f'.subscribers = []) := by
    intro i f' hf'
    obtain ⟨f, hf, rfl⟩ := exists_of_getElem?_modify hf'
    refine ⟨f, hf, ?_⟩
    split
    · rename_i hi
      obtain ⟨hsub, -, hclosed⟩ := hg f (hi ▸ hf)
      exact ⟨hsub, hclosed⟩
    · exact ⟨.refl _, hx.closed (f := f) hf⟩
  refine ⟨fun {mailbox i} hm ↦ ?_, hx.injective, fun hf' ↦ ?_, fun hf' ↦ ?_, hx.targets, hx.gone⟩
  · obtain ⟨f, hf, hlt⟩ := hx.lt_next hm
    refine ⟨_, getElem?_modify_of_some hf feed g, ?_⟩
    split
    · rename_i hi
      exact Nat.lt_of_lt_of_le hlt (hg f (hi ▸ hf)).2.1
    · exact hlt
  · obtain ⟨f, hf, hsub, -⟩ := hfeeds hf'
    obtain ⟨hnodup, hall⟩ := hx.subscribers hf
    exact ⟨hnodup.sublist hsub, fun s hs ↦ hall s (hsub.subset hs)⟩
  · obtain ⟨f, -, -, hclosed⟩ := hfeeds hf'
    exact hclosed

/-- The numbers that a broadcast has to do with may change to others that belong to its feed. -/
theorem Numbered.updateBroadcast (hx : x.Numbered number) {i : BroadcastId} {b : Broadcast α}
    (hb : x.broadcasts[i]? = some b) {g : Broadcast α → Broadcast α}
    (hfeed : (g b).feed = b.feed)
    (htargets : (g b).targets.Nodup ∧ ∀ s ∈ (g b).targets, x.Belongs number b.feed s)
    (hgone : ∀ n ∈ (g b).gone, ∃ mailbox, x.Belongs number b.feed (n, mailbox) ∧
      x.isRead mailbox = false) :
    (x.updateBroadcast i g).Numbered number := by
  refine ⟨hx.lt_next, hx.injective, hx.subscribers, hx.closed, fun {j b'} hb' ↦ ?_,
    fun {j b' n} hb' hn ↦ ?_⟩ <;> obtain ⟨b₀, hb₀, rfl⟩ := exists_of_getElem?_modify hb'
  · split
    · rename_i hi
      rw [hi, hb₀, Option.some.injEq] at hb
      subst hb
      rw [hfeed]
      exact htargets
    · exact hx.targets hb₀
  · split at hn
    · rename_i hi
      rw [hi, hb₀, Option.some.injEq] at hb
      subst hb
      rw [if_pos hi, hfeed]
      exact hgone n hn
    · rename_i hi
      rw [if_neg hi]
      exact hx.gone hb₀ hn

/-! ### Actions -/

theorem Numbered.hold (hx : x.Numbered number) (feed : FeedId) :
    (x.act (.hold feed)).Numbered number :=
  hx.updateFeed feed fun f hf ↦ ⟨.refl _, Nat.le_refl _, hx.closed (f := f) hf⟩

theorem Numbered.release (hx : x.Numbered number) (feed : FeedId) :
    (x.act (.release feed)).Numbered number :=
  hx.updateFeed feed fun f hf ↦ ⟨.refl _, Nat.le_refl _, hx.closed (f := f) hf⟩

theorem Numbered.unsubscribe (hx : x.Numbered number) (feed : FeedId) (n : Nat) :
    (x.act (.unsubscribe feed n)).Numbered number := by
  refine hx.updateFeed feed fun f hf ↦ ⟨List.filter_sublist, Nat.le_refl _, fun hclosed ↦ ?_⟩
  rw [hx.closed hf hclosed]
  rfl

theorem Numbered.openFeed (hx : x.Numbered number) (capacity : Nat) :
    (x.openFeed capacity).2.Numbered number := by
  refine ⟨fun hm ↦ ?_, hx.injective, fun hf' ↦ ?_, fun hf' hclosed ↦ ?_, hx.targets, hx.gone⟩
  · obtain ⟨f, hf, hlt⟩ := hx.lt_next hm
    exact ⟨f, getElem?_concat_of_some hf _, hlt⟩
  · rcases getElem?_concat_cases hf' with hf | ⟨-, rfl⟩
    · exact hx.subscribers hf
    · exact ⟨.nil, fun s hs ↦ by cases hs⟩
  · rcases getElem?_concat_cases hf' with hf | ⟨-, rfl⟩
    · exact hx.closed hf hclosed
    · cases hclosed

theorem Numbered.announce (hx : x.Numbered number) (feed : FeedId) (c : Change α) :
    (x.announce feed c).2.Numbered number := by
  refine ⟨hx.lt_next, hx.injective, hx.subscribers, hx.closed, fun hb' ↦ ?_, fun hb' hn ↦ ?_⟩
  · rcases getElem?_concat_cases hb' with hb | ⟨-, rfl⟩
    · exact hx.targets hb
    · exact ⟨.nil, fun s hs ↦ by cases hs⟩
  · rcases getElem?_concat_cases hb' with hb | ⟨-, rfl⟩
    · exact hx.gone hb hn
    · cases hn

theorem ne_length_of_feedOf {m : MailboxId} {feed : FeedId} (h : x.feedOf m = some feed) :
    m ≠ x.mailboxes.length := by
  obtain ⟨box, hbox, -⟩ := Option.map_eq_some_iff.1 h
  exact Nat.ne_of_lt (List.getElem?_eq_some_iff.1 hbox).1

theorem feedOf_withSubscription (x : Exchange α) (feed : FeedId) (f : Feed) :
    (x.withSubscription feed f).feedOf =
      Function.update x.feedOf x.mailboxes.length (some feed) := by
  funext m
  show ((x.mailboxes ++ [_])[m]?).map _ = _
  rcases Nat.lt_trichotomy m x.mailboxes.length with hm | rfl | hm
  · rw [List.getElem?_append_left hm, Function.update_of_ne (Nat.ne_of_lt hm)]
    rfl
  · rw [List.getElem?_concat_length, Function.update_self]
    rfl
  · rw [List.getElem?_eq_none (by rw [List.length_append]; exact hm),
      Function.update_of_ne (Nat.ne_of_gt hm), feedOf, List.getElem?_eq_none (Nat.le_of_lt hm)]

theorem isRead_withSubscription {m : MailboxId} {i : FeedId} (hm : x.feedOf m = some i)
    (feed : FeedId) (f : Feed) : (x.withSubscription feed f).isRead m = x.isRead m := by
  obtain ⟨box, hbox, -⟩ := Option.map_eq_some_iff.1 hm
  show ((x.mailboxes ++ [_])[m]?).any _ = (x.mailboxes[m]?).any _
  rw [getElem?_concat_of_some hbox, hbox]

theorem isRead_withSubscription_length (x : Exchange α) (feed : FeedId) (f : Feed) :
    (x.withSubscription feed f).isRead x.mailboxes.length = true := by
  show ((x.mailboxes ++ [_])[x.mailboxes.length]?).any _ = true
  rw [List.getElem?_concat_length]
  rfl

/-- The numbering with the number of a new subscription. -/
def renumber (x : Exchange α) (number : MailboxId → Nat) (f : Feed) : MailboxId → Nat :=
  Function.update number x.mailboxes.length f.nextNumber

theorem renumber_of_feedOf {m : MailboxId} {i : FeedId} (hm : x.feedOf m = some i)
    (number : MailboxId → Nat) (f : Feed) : x.renumber number f m = number m :=
  Function.update_of_ne (ne_length_of_feedOf hm) _ _

theorem Belongs.withSubscription {i : FeedId} {s : Nat × MailboxId} (hs : x.Belongs number i s)
    (feed : FeedId) (f : Feed) :
    (x.withSubscription feed f).Belongs (x.renumber number f) i s := by
  rw [Belongs, feedOf_withSubscription, Function.update_of_ne (ne_length_of_feedOf hs.1),
    renumber_of_feedOf hs.1]
  exact hs

theorem belongs_withSubscription (x : Exchange α) (number : MailboxId → Nat) (feed : FeedId)
    (f : Feed) : (x.withSubscription feed f).Belongs (x.renumber number f) feed
      (f.nextNumber, x.mailboxes.length) := by
  rw [Belongs, feedOf_withSubscription, renumber, Function.update_self, Function.update_self]
  exact ⟨rfl, rfl⟩

/-- A mailbox is one that there was before, or the one of the new subscription. -/
theorem feedOf_withSubscription_cases {m : MailboxId} {i feed : FeedId} {f : Feed}
    (hm : (x.withSubscription feed f).feedOf m = some i) :
    x.feedOf m = some i ∨ m = x.mailboxes.length ∧ i = feed := by
  rw [feedOf_withSubscription] at hm
  by_cases hlast : m = x.mailboxes.length
  · rw [hlast, Function.update_self, Option.some.injEq] at hm
    exact .inr ⟨hlast, hm.symm⟩
  · rw [Function.update_of_ne hlast] at hm
    exact .inl hm

theorem Numbered.lt_of_feedOf (hx : x.Numbered number) {feed : FeedId} {f : Feed}
    (hf : x.feeds[feed]? = some f) {m : MailboxId} (hm : x.feedOf m = some feed) :
    number m < f.nextNumber := by
  obtain ⟨f', hf', hlt⟩ := hx.lt_next hm
  rw [hf, Option.some.injEq] at hf'
  exact hf' ▸ hlt

/-- The new subscription takes a number that no mailbox of the feed has. -/
theorem Numbered.withSubscription (hx : x.Numbered number) {feed : FeedId} {f : Feed}
    (hf : x.feeds[feed]? = some f) (hopen : f.closed = false) :
    (x.withSubscription feed f).Numbered (x.renumber number f) := by
  have hnew := x.belongs_withSubscription number feed f
  constructor
  case lt_next =>
    intro m i hm
    rcases feedOf_withSubscription_cases hm with hm | ⟨rfl, rfl⟩
    · obtain ⟨f', hf', hlt⟩ := hx.lt_next hm
      refine ⟨_, getElem?_modify_of_some hf' feed _, ?_⟩
      rw [renumber_of_feedOf hm]
      split
      · exact Nat.lt_succ_of_lt hlt
      · exact hlt
    · refine ⟨_, getElem?_modify_of_some hf i _, ?_⟩
      rw [if_pos rfl, ← hnew.2]
      exact Nat.lt_succ_self _
  case injective =>
    -- all numbers that there are on the feed are smaller than the new one
    intro m m' i hm hm' heq
    rcases feedOf_withSubscription_cases hm with hold | ⟨rfl, rfl⟩ <;>
      rcases feedOf_withSubscription_cases hm' with hold' | ⟨rfl, heq'⟩
    · rw [renumber_of_feedOf hold, renumber_of_feedOf hold'] at heq
      exact hx.injective hold hold' heq
    · subst heq'
      rw [renumber_of_feedOf hold, ← hnew.2] at heq
      exact absurd heq (Nat.ne_of_lt (hx.lt_of_feedOf hf hold))
    · rw [renumber_of_feedOf hold', ← hnew.2] at heq
      exact absurd heq.symm (Nat.ne_of_lt (hx.lt_of_feedOf hf hold'))
    · rfl
  case subscribers =>
    -- the new mailbox is none of those that the subscriptions have
    intro i f' hf'
    obtain ⟨f₀, hf₀, rfl⟩ := exists_of_getElem?_modify hf'
    obtain ⟨hnodup, hall⟩ := hx.subscribers hf₀
    have hall' := fun s hs ↦ (hall s hs).withSubscription feed f
    split
    · rename_i hi
      rw [hi, hf₀, Option.some.injEq] at hf
      subst hi hf
      refine ⟨List.nodup_append.2 ⟨hnodup, List.pairwise_singleton .., fun s hs s' hs' ↦ ?_⟩,
        fun s hs ↦ ?_⟩
      · rw [List.mem_singleton.1 hs']
        rintro rfl
        exact ne_length_of_feedOf (hall _ hs).1 rfl
      · rcases List.mem_append.1 hs with hs | hs
        · exact hall' s hs
        · rw [List.mem_singleton.1 hs]
          exact hnew
    · exact ⟨hnodup, hall'⟩
  case closed =>
    intro i f' hf' hclosed
    obtain ⟨f₀, hf₀, rfl⟩ := exists_of_getElem?_modify hf'
    by_cases hi : feed = i
    · rw [hi, hf₀, Option.some.injEq] at hf
      rw [if_pos hi, hf, hopen] at hclosed
      cases hclosed
    · rw [if_neg hi] at hclosed ⊢
      exact hx.closed hf₀ hclosed
  case targets =>
    intro i b hb
    obtain ⟨hnodup, hall⟩ := hx.targets hb
    exact ⟨hnodup, fun s hs ↦ (hall s hs).withSubscription feed f⟩
  case gone =>
    intro i b n hb hn
    obtain ⟨m, hm, hread⟩ := hx.gone hb hn
    exact ⟨m, hm.withSubscription feed f, (isRead_withSubscription hm.1 feed f).trans hread⟩

/-- A step of a broadcast keeps the numbering. -/
theorem Numbered.advances (hx : x.Numbered number) {i : BroadcastId} {x' : Exchange α}
    (h : x.Advances i x') : x'.Numbered number := by
  cases h with
  | idle => exact hx
  | @fix b hb hstage =>
    refine hx.updateBroadcast hb rfl ?_ fun n hn ↦ hx.gone (b := b) hb hn
    cases hf : x.feeds[b.feed]? with
    | none => exact ⟨.nil, fun s hs ↦ by cases hs⟩
    | some f => exact hx.subscribers hf
  | @pass b n m rest hb hstage htargets hread =>
    have hx' := hx.updateMailbox m (g := (·.forget i)) (fun _ ↦ rfl) fun _ h ↦ h
    obtain ⟨hnodup, hall⟩ := hx'.targets hb
    rw [htargets] at hnodup hall
    refine hx'.updateBroadcast hb rfl
      ⟨hnodup.of_cons, fun s hs ↦ hall s (List.mem_cons_of_mem _ hs)⟩ fun n' hn' ↦ ?_
    rcases List.mem_append.1 hn' with hn' | hn'
    · exact hx'.gone hb hn'
    · rw [List.mem_singleton.1 hn']
      have hread' := isRead_updateMailbox (g := (·.forget i)) (fun _ h ↦ h) m hread
      exact ⟨m, hall _ List.mem_cons_self, hread'⟩
  | @serve b n m rest hb hstage htargets hread =>
    have hx' := hx.updateMailbox m (g := (·.push i b.change)) (fun _ ↦ rfl) fun _ h ↦ h
    obtain ⟨hnodup, hall⟩ := hx'.targets hb
    rw [htargets] at hnodup hall
    exact hx'.updateBroadcast hb rfl
      ⟨hnodup.of_cons, fun s hs ↦ hall s (List.mem_cons_of_mem _ hs)⟩ fun n hn ↦
        hx'.gone (b := b) hb hn
  | await _ _ m =>
    exact hx.updateMailbox m (fun box ↦ (box.keeps_await i).1) fun box h ↦
      (box.keeps_await i).2.2 ▸ h
  | @finish b hb hstage htargets =>
    have hx' := hx.updateFeed b.feed
      (g := fun f ↦ { f with subscribers := f.subscribers.filter fun s ↦ !b.gone.contains s.1 })
      fun f hf ↦ ⟨List.filter_sublist, Nat.le_refl _, fun hclosed ↦ by
        rw [hx.closed hf hclosed]; rfl⟩
    exact hx'.updateBroadcast hb rfl (hx'.targets (b := b) hb) fun n hn ↦
        hx'.gone (b := b) hb hn

theorem Numbered.receive (hx : x.Numbered number) (m : MailboxId) :
    (x.act (.receive m)).Numbered number := by
  rw [Exchange.act]
  rcases x.receive_cases m with ⟨-, heq, -⟩ | ⟨c, rest, -, heq⟩ <;> rw [heq]
  · exact hx
  · exact hx.updateMailbox m (fun _ ↦ rfl) fun _ h ↦ h

/-- Every action keeps the numbering of the mailboxes that there are. -/
theorem Numbered.act (hx : x.Numbered number) (a : Action α) :
    ∃ number', (x.act a).Numbered number' ∧
      ∀ m feed, x.feedOf m = some feed → number' m = number m := by
  have hkeep : (x.act a).Numbered number → ∃ number', (x.act a).Numbered number' ∧
      ∀ m feed, x.feedOf m = some feed → number' m = number m :=
    fun h ↦ ⟨number, h, fun _ _ _ ↦ rfl⟩
  cases a with
  | openFeed capacity => exact hkeep (hx.openFeed capacity)
  | hold feed => exact hkeep (hx.hold feed)
  | release feed => exact hkeep (hx.release feed)
  | close feed =>
    exact hkeep (hx.updateFeed feed fun f _ ↦ ⟨List.nil_sublist _, Nat.le_refl _, fun _ ↦ rfl⟩)
  | subscribe feed =>
    rcases x.subscribe_cases feed with ⟨fault, -, heq | heq⟩ | ⟨f, hf, hopen, heq⟩
    · exact hkeep (by rw [Exchange.act, heq]; exact hx)
    · refine hkeep ?_
      rw [Exchange.act, heq]
      exact hx.updateFeed feed fun f hf ↦ ⟨.refl _, Nat.le_succ _, hx.closed (f := f) hf⟩
    · refine ⟨x.renumber number f, ?_, fun m feed hm ↦ renumber_of_feedOf hm number f⟩
      rw [Exchange.act, heq]
      exact hx.withSubscription hf hopen
  | unsubscribe feed n => exact hkeep (hx.unsubscribe feed n)
  | receive m => exact hkeep (hx.receive m)
  | discard m => exact hkeep (hx.updateMailbox m (fun _ ↦ rfl) fun _ h ↦ by cases h)
  | announce feed c => exact hkeep (hx.announce feed c)
  | advance i => exact hkeep (hx.advances (x.advances_advance i))
  | abandon i =>
    refine hkeep ?_
    rw [Exchange.act, abandon]
    split
    · exact hx
    · rename_i b hb
      split
      · have hx' : Numbered { x with mailboxes := x.mailboxes.map fun m ↦ m.forget i } number :=
          hx.withMailboxes (feedOf_map_forget x i) fun m h ↦ (isRead_map_forget x i m).trans h
        exact hx'.updateBroadcast hb rfl ⟨.nil, fun s hs ↦ by cases hs⟩ fun n hn ↦
        hx'.gone (b := b) hb hn
      · exact hx

end Exchange

end LiveFind
