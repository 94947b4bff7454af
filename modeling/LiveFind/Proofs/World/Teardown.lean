import LiveFind.Proofs.Exchange.History
import LiveFind.Proofs.World.Feeds

/-!
# How links end

A link ends in one of three ways: its finder is retired, or dropped, or its own courier comes to an
end (`Action.Ends`). What one action makes of a courier is said once, in `Linked.keepsUnless_act`:
it stays as it is, or one of these actions takes it out of work, and then its subscription is listed
no more. A courier that is out of work stays so, and nobody lists its subscription again.

So a run ends each link at most once (`Tended.run`), and all that is left of it when it has ended is
a courier on its way out. Numbers of different feeds may be the same; what keeps the links apart is
that no two couriers have one mailbox.
-/

namespace LiveFind

/-! ### Listed subscriptions -/

namespace Exchange

variable {α : Type} {x : Exchange α} {feed : FeedId} {s : Nat × MailboxId}
  {number : MailboxId → Nat}

theorem mem_subscribersOf_updateFeed_of_mem {i : FeedId} {g : Feed → Feed}
    (hmem : s ∈ x.subscribersOf feed)
    (hg : ∀ f, i = feed → s ∈ f.subscribers → s ∈ (g f).subscribers) :
    s ∈ (x.updateFeed i g).subscribersOf feed := by
  cases hf : x.feeds[feed]? with
  | none => rw [subscribersOf, hf] at hmem; cases hmem
  | some f =>
    rw [subscribersOf, hf] at hmem
    rw [subscribersOf, updateFeed, getElem?_modify_of_some hf]
    split
    · exact hg f ‹_› hmem
    · exact hmem

theorem mem_subscribersOf_of_updateFeed {i : FeedId} {g : Feed → Feed}
    (hmem : s ∈ (x.updateFeed i g).subscribersOf feed)
    (hg : ∀ f, s ∈ (g f).subscribers → s ∈ f.subscribers) : s ∈ x.subscribersOf feed := by
  rcases mem_subscribersOf_updateFeed hmem with ⟨-, hold⟩ | ⟨-, f, hf, hkept⟩
  · exact hold
  · rw [subscribersOf, hf]
    exact hg f hkept

/-- A subscription with a reader is listed until it is ended by its number or with its feed. -/
theorem mem_subscribersOf_act_of_ne (hx : x.Numbered number) (hs : x.Belongs number feed s)
    (hread : x.isRead s.2 = true) {a : Action α} (hclose : a ≠ .close feed)
    (hunsubscribe : a ≠ .unsubscribe feed s.1) (hmem : s ∈ x.subscribersOf feed) :
    s ∈ (x.act a).subscribersOf feed := by
  cases a with
  | openFeed capacity =>
    cases hf : x.feeds[feed]? with
    | none => rw [subscribersOf, hf] at hmem; cases hmem
    | some f =>
      rw [subscribersOf, hf] at hmem
      rw [subscribersOf, act, openFeed, getElem?_concat_of_some hf]
      exact hmem
  | hold i | release i => exact mem_subscribersOf_updateFeed_of_mem hmem fun _ _ ↦ id
  | close i =>
    exact mem_subscribersOf_updateFeed_of_mem hmem fun _ hi ↦ absurd (congrArg _ hi) hclose
  | subscribe i =>
    rw [act]
    rcases x.subscribe_cases i with ⟨-, -, heq | heq⟩ | ⟨f, -, -, heq⟩ <;> rw [heq]
    · exact hmem
    · exact mem_subscribersOf_updateFeed_of_mem hmem fun _ _ ↦ id
    · exact mem_subscribersOf_updateFeed_of_mem hmem fun _ _ h ↦ List.mem_append_left _ h
  | unsubscribe i n =>
    refine mem_subscribersOf_updateFeed_of_mem hmem fun f hi h ↦ List.mem_filter.2 ⟨h, ?_⟩
    exact bne_iff_ne.2 fun hn ↦ hunsubscribe (by rw [hi, hn])
  | receive m => rw [subscribersOf, feeds_act_receive]; exact hmem
  | discard | announce => exact hmem
  | advance i =>
    have hadvances := x.advances_advance i
    rw [act]
    generalize (x.advance i).2.2 = x' at hadvances ⊢
    cases hadvances with
    | idle | fix | pass | serve | await => exact hmem
    | @finish b hb =>
      refine mem_subscribersOf_updateFeed_of_mem (x := x) hmem fun f hi h ↦
        List.mem_filter.2 ⟨h, ?_⟩
      rw [Bool.not_eq_true', List.contains_eq_mem, decide_eq_false_iff_not]
      intro hgone
      -- the reader found gone would be this one
      obtain ⟨m, hm, hnone⟩ := hx.gone hb hgone
      rw [hi] at hm
      rw [hx.eq_of_belongs hs hm, hnone] at hread
      cases hread
  | abandon i =>
    rw [act, abandon]
    split
    · exact hmem
    · split <;> exact hmem

/-- A mailbox that there is and that is not listed never will be. -/
theorem not_mem_subscribersOf_act {m : MailboxId} {i : FeedId} {n : Nat}
    (h : x.feedOf m = some feed ∧ (n, m) ∉ x.subscribersOf i) (a : Action α) :
    (x.act a).feedOf m = some feed ∧ (n, m) ∉ (x.act a).subscribersOf i := by
  refine ⟨feedOf_act a h.1, fun hmem ↦ ?_⟩
  rcases mem_subscribersOf_act hmem with hold | hnew
  · exact h.2 hold
  · exact ne_length_of_feedOf h.1 hnew

end Exchange

namespace World

variable {α : Type} [BEq α] [Hashable α]

/-- A courier works for a finder. -/
def AtWork (w : World α) (i : FinderId) (j : CourierId) : Prop :=
  ∃ c, w.couriers[j]? = some c ∧ c.finder = i ∧ c.stage = .running

/-- The link of a finder, if there is one. -/
def linkOf (w : World α) (i : FinderId) : Option Link :=
  (w.finders[i]?).bind (·.link)

/-- What can end the link of a finder: retiring or dropping it, and a step of its courier. -/
def Action.Ends (i : FinderId) (j : CourierId) (a : Action α) : Prop :=
  a = .retire i ∨ a = .drop i ∨ a = .carry j

variable {w : World α} {number : MailboxId → Nat} {i : FinderId} {j : CourierId} {c : Courier}

/-! ### The end of a link in the exchange -/

/-- When a link ends, its subscription is not listed any more. -/
theorem Linked.not_mem_subscribersOf_detach (hw : w.Linked number) {f : Finder α} {l : Link}
    (hf : w.finders[i]? = some f) (hl : f.link = some l) (hc : w.couriers[l.courier]? = some c)
    (g : Hits α → Hits α) (feed : FeedId) (n : Nat) :
    (n, c.mailbox) ∉ (w.detach i l g).exchange.subscribersOf feed := by
  intro hmem
  obtain ⟨c₀, hc₀, -, -, hbelongs, -⟩ := hw.exists_courier hf hl
  rw [hc, Option.some.injEq] at hc₀
  subst hc₀
  have hx := (hw.numbered.unsubscribe l.feed l.number).release l.feed
  obtain ⟨hfeed, hn⟩ := (hx.subscribersOf feed).2 _ hmem
  -- it could only stand with the number that was ended
  have hfeed' : w.exchange.feedOf c.mailbox = some feed := hfeed
  rw [hbelongs.1, Option.some.injEq] at hfeed'
  subst hfeed'
  have hlisted := Exchange.mem_subscribersOf_of_updateFeed hmem fun _ ↦ id
  rcases Exchange.mem_subscribersOf_updateFeed hlisted with ⟨hne, -⟩ | ⟨-, fd, -, hkept⟩
  · exact hne rfl
  · exact bne_iff_ne.1 (List.mem_filter.1 hkept).2 (hn.trans hbelongs.2.symm)

theorem Linked.not_mem_subscribersOf_finish (hw : w.Linked number) (hc : w.couriers[j]? = some c)
    (hstage : c.stage = .running) (feed : FeedId) (n : Nat) :
    (n, c.mailbox) ∉ (w.finish j c).exchange.subscribersOf feed := by
  obtain ⟨f, feed', notes, hf, -, hl, heq⟩ := hw.finish_eq_detach hc hstage
  have hnot := hw.not_mem_subscribersOf_detach hf hl hc id feed n
  rw [heq]
  exact hnot

/-! ### What becomes of a courier -/

theorem couriers_finish (w : World α) (j : CourierId) (c : Courier) :
    (w.finish j c).couriers = w.couriers.modify j fun c ↦ { c with stage := .ended } := by
  rw [finish]
  split
  · rfl
  · split
    · rfl
    · split <;> rfl

/-- A courier is as it was, or out of work. If it was at work before, there is a reason then, and
its subscription is not listed any more. -/
def KeepsUnless (w : World α) (j : CourierId) (c : Courier) (reason : Prop) : Prop :=
  ∃ stage, w.couriers[j]? = some { c with stage } ∧ (stage = c.stage ∨ stage ≠ .running ∧
    (c.stage = .running → reason ∧ ∀ feed n, (n, c.mailbox) ∉ w.exchange.subscribersOf feed))

theorem keepsUnless_of_some (hc : w.couriers[j]? = some c) (reason : Prop) :
    w.KeepsUnless j c reason :=
  ⟨c.stage, hc, .inl rfl⟩

theorem KeepsUnless.imp {reason reason' : Prop} (h : w.KeepsUnless j c reason)
    (himp : reason → reason') : w.KeepsUnless j c reason' := by
  obtain ⟨stage, hc, hcases⟩ := h
  exact ⟨stage, hc, hcases.imp_right fun ⟨hstage, hrunning⟩ ↦
    ⟨hstage, fun h ↦ (hrunning h).imp_left himp⟩⟩

theorem Linked.keepsUnless_retire (hw : w.Linked number) (hc : w.couriers[j]? = some c)
    (i : FinderId) : (w.retire i).KeepsUnless j c (c.finder = i) := by
  cases hf : w.finders[i]? with
  | none => rw [World.retire, hf]; exact keepsUnless_of_some hc _
  | some f =>
    cases hl : f.link with
    | none =>
      rw [World.retire, hf]
      dsimp only
      rw [hl]
      exact keepsUnless_of_some hc _
    | some l =>
      obtain ⟨notes, heq⟩ := hw.retire_eq_detach hf hl
      rw [heq]
      have hc' := Exchange.getElem?_modify_of_some hc l.courier
        fun c ↦ { c with stage := .stopping }
      by_cases hj : l.courier = j
      · rw [if_pos hj] at hc'
        obtain ⟨c₀, hc₀, hfinder, -⟩ := hw.exists_courier hf hl
        rw [hj, hc, Option.some.injEq] at hc₀
        exact ⟨.stopping, hc', .inr ⟨CourierStage.noConfusion, fun _ ↦ ⟨hc₀ ▸ hfinder,
          hw.not_mem_subscribersOf_detach hf hl (hj ▸ hc) Hits.retire⟩⟩⟩
      · rw [if_neg hj] at hc'
        exact keepsUnless_of_some hc' _

theorem Linked.keepsUnless_finish (hw : w.Linked number) (hc : w.couriers[j]? = some c)
    {j' : CourierId} {c' : Courier} (hc' : w.couriers[j']? = some c')
    (hstage : c'.stage = .running) : (w.finish j' c').KeepsUnless j c (j' = j) := by
  have hafter := Exchange.getElem?_modify_of_some hc j' fun c ↦ { c with stage := .ended }
  rw [← couriers_finish w j' c'] at hafter
  by_cases hj : j' = j
  · subst hj
    rw [if_pos rfl] at hafter
    rw [hc, Option.some.injEq] at hc'
    subst hc'
    exact ⟨.ended, hafter, .inr ⟨CourierStage.noConfusion, fun _ ↦
      ⟨rfl, hw.not_mem_subscribersOf_finish hc hstage⟩⟩⟩
  · rw [if_neg hj] at hafter
    exact keepsUnless_of_some hafter _

variable [Findable α]

theorem Linked.keepsUnless_carries (hw : w.Linked number) (hc : w.couriers[j]? = some c)
    {j' : CourierId} {w' : World α} (h : w.Carries j' w') : w'.KeepsUnless j c (j' = j) := by
  cases h with
  | idle => exact keepsUnless_of_some hc _
  | @putAway c' hc' hstage =>
    have hafter := Exchange.getElem?_modify_of_some hc j' fun c ↦ { c with stage := .ended }
    by_cases hj : j' = j
    · subst hj
      rw [if_pos rfl] at hafter
      rw [hc, Option.some.injEq] at hc'
      subst hc'
      refine ⟨.ended, hafter, .inr ⟨CourierStage.noConfusion, fun hrunning ↦ ?_⟩⟩
      rw [hstage] at hrunning
      cases hrunning
    · rw [if_neg hj] at hafter
      exact keepsUnless_of_some hafter _
  | finish hc' hstage => exact hw.keepsUnless_finish hc hc' hstage
  | lose hc' hstage => exact (hw.withReceived _).keepsUnless_finish hc hc' hstage
  | @refuse c' change _ hc' hstage =>
    have hsame := couriers_apply (w.withReceived c'.mailbox) c'.finder c'.view change
    refine ((hw.withReceived _).apply c'.finder c'.view change).keepsUnless_finish ?_ ?_ hstage <;>
      rw [hsame]
    · exact hc
    · exact hc'
  | @bring c' change =>
    refine keepsUnless_of_some ?_ _
    rw [couriers_apply]
    exact hc

/-- Only what can end the link of a finder takes its courier out of work. -/
theorem Linked.keepsUnless_act (hw : w.Linked number) (hc : w.couriers[j]? = some c)
    (a : Action α) : (w.act a).KeepsUnless j c (a.Ends c.finder j) := by
  have hkeep : ∀ {w' : World α} {reason : Prop}, w'.couriers[j]? = some c →
      w'.KeepsUnless j c reason := fun hc ↦ keepsUnless_of_some hc _
  cases a with
  | openView | closeView | search => exact hkeep hc
  | exchange x =>
    obtain ⟨notes, heq⟩ := w.exists_act_exchange x
    refine hkeep ?_
    rw [heq]
    exact hc
  | track q matched start =>
    rw [World.act]
    split <;> exact hkeep hc
  | next i | previous i =>
    rw [World.act, World.stepWith]
    split
    · exact hkeep hc
    · split <;> exact hkeep hc
  | apply i view change =>
    refine hkeep ?_
    rw [World.act, couriers_apply]
    exact hc
  | follow i feed view =>
    refine hkeep ?_
    rw [World.act]
    rcases w.follow_cases i feed view with
      ⟨-, -, heq | heq⟩ | ⟨-, f, notes, -, -, -, -, -, -, heq⟩ <;> rw [heq]
    · exact hc
    · exact hc
    · exact Exchange.getElem?_concat_of_some hc _
  | retire i => exact (hw.keepsUnless_retire hc i).imp fun hi ↦ .inl (hi ▸ rfl)
  | drop i => exact (hw.keepsUnless_retire hc i).imp fun hi ↦ .inr (.inl (hi ▸ rfl))
  | carry j' =>
    exact (hw.keepsUnless_carries hc (w.carries_carry j')).imp fun hj ↦ .inr (.inr (hj ▸ rfl))

/-! ### What keeps a subscription listed -/

section Listed

variable {feed : FeedId}

omit [Findable α] in
/-- The links of other couriers may end: they have other numbers, or other feeds. -/
theorem Linked.mem_subscribersOf_detach (hw : w.Linked number) (hc : w.couriers[j]? = some c)
    (hm : w.exchange.feedOf c.mailbox = some feed)
    (hmem : (c.number, c.mailbox) ∈ w.exchange.subscribersOf feed) {i : FinderId} {f : Finder α}
    {l : Link} (hf : w.finders[i]? = some f) (hl : f.link = some l) (hj : l.courier ≠ j)
    (g : Hits α → Hits α) :
    (c.number, c.mailbox) ∈ (w.detach i l g).exchange.subscribersOf feed := by
  obtain ⟨c', hc', -, -, hbelongs', -⟩ := hw.exists_courier hf hl
  obtain ⟨⟨feed', hbelongs⟩, -⟩ := hw.mailbox hc
  rw [show feed' = feed from Option.some.inj (hbelongs.1.symm.trans hm)] at hbelongs
  refine Exchange.mem_subscribersOf_updateFeed_of_mem (Exchange.mem_subscribersOf_updateFeed_of_mem
    hmem fun fd hfeed h ↦ List.mem_filter.2 ⟨h, bne_iff_ne.2 fun hnumber ↦ ?_⟩) fun _ _ ↦ id
  rw [hfeed, ← show c.number = l.number from hnumber] at hbelongs'
  exact hj (hw.separate hc' hc (hw.numbered.eq_of_belongs hbelongs' hbelongs))

omit [Findable α] in
theorem Linked.mem_subscribersOf_retire (hw : w.Linked number) (hc : w.couriers[j]? = some c)
    (hm : w.exchange.feedOf c.mailbox = some feed)
    (hmem : (c.number, c.mailbox) ∈ w.exchange.subscribersOf feed) {i : FinderId}
    (hi : c.finder ≠ i) : (c.number, c.mailbox) ∈ (w.retire i).exchange.subscribersOf feed := by
  cases hf : w.finders[i]? with
  | none => rw [World.retire, hf]; exact hmem
  | some f =>
    cases hl : f.link with
    | none =>
      rw [World.retire, hf]
      dsimp only
      rw [hl]
      exact hmem
    | some l =>
      obtain ⟨notes, heq⟩ := hw.retire_eq_detach hf hl
      rw [heq]
      refine hw.mem_subscribersOf_detach hc hm hmem hf hl (fun hj ↦ ?_) Hits.retire
      obtain ⟨c', hc', hfinder, -⟩ := hw.exists_courier hf hl
      rw [hj, hc, Option.some.injEq] at hc'
      exact hi (hc' ▸ hfinder)

omit [Findable α] in
theorem Linked.mem_subscribersOf_finish (hw : w.Linked number) (hc : w.couriers[j]? = some c)
    (hm : w.exchange.feedOf c.mailbox = some feed)
    (hmem : (c.number, c.mailbox) ∈ w.exchange.subscribersOf feed) {j' : CourierId} {c' : Courier}
    (hc' : w.couriers[j']? = some c') (hstage : c'.stage = .running) (hj : j' ≠ j) :
    (c.number, c.mailbox) ∈ (w.finish j' c').exchange.subscribersOf feed := by
  obtain ⟨f, feed', notes, hf, -, hl, heq⟩ := hw.finish_eq_detach hc' hstage
  rw [heq]
  exact hw.mem_subscribersOf_detach hc hm hmem hf hl hj id

theorem Linked.mem_subscribersOf_carries (hw : w.Linked number) (hc : w.couriers[j]? = some c)
    (hm : w.exchange.feedOf c.mailbox = some feed)
    (hmem : (c.number, c.mailbox) ∈ w.exchange.subscribersOf feed) {j' : CourierId} {w' : World α}
    (h : w.Carries j' w') (hj : j' ≠ j) :
    (c.number, c.mailbox) ∈ w'.exchange.subscribersOf feed := by
  have hreceived : ∀ m, (w.withReceived m).exchange.feedOf c.mailbox = some feed ∧
      (c.number, c.mailbox) ∈ (w.withReceived m).exchange.subscribersOf feed := fun m ↦ by
    refine ⟨Exchange.feedOf_act _ hm, ?_⟩
    rw [Exchange.subscribersOf, World.withReceived, Exchange.feeds_act_receive]
    exact hmem
  cases h with
  | idle | putAway => exact hmem
  | finish hc' hstage => exact hw.mem_subscribersOf_finish hc hm hmem hc' hstage hj
  | @lose c' _ _ hc' hstage =>
    obtain ⟨hm', hmem'⟩ := hreceived c'.mailbox
    exact (hw.withReceived _).mem_subscribersOf_finish hc hm' hmem' hc' hstage hj
  | @refuse c' change _ hc' hstage =>
    obtain ⟨hm', hmem'⟩ := hreceived c'.mailbox
    have hcouriers := couriers_apply (w.withReceived c'.mailbox) c'.finder c'.view change
    have hexchange := exchange_apply (w.withReceived c'.mailbox) c'.finder c'.view change
    refine ((hw.withReceived _).apply c'.finder c'.view change).mem_subscribersOf_finish ?_ ?_ ?_ ?_
      hstage hj
    · rw [hcouriers]; exact hc
    · rw [hexchange]; exact hm'
    · rw [hexchange]; exact hmem'
    · rw [hcouriers]; exact hc'
  | @bring c' change =>
    rw [exchange_apply]
    exact (hreceived c'.mailbox).2

/-- The subscription of a courier at work is listed until its link ends, or it is ended itself, by
its number or with its feed. -/
theorem Linked.mem_subscribersOf_act (hw : w.Linked number) (hc : w.couriers[j]? = some c)
    (hstage : c.stage = .running) (hm : w.exchange.feedOf c.mailbox = some feed)
    (hmem : (c.number, c.mailbox) ∈ w.exchange.subscribersOf feed) {a : Action α}
    (hclose : a ≠ .exchange (.close feed))
    (hunsubscribe : a ≠ .exchange (.unsubscribe feed c.number)) (hends : ¬a.Ends c.finder j) :
    (c.number, c.mailbox) ∈ (w.act a).exchange.subscribersOf feed := by
  obtain ⟨⟨feed', hbelongs⟩, hread⟩ := hw.mailbox hc
  rw [show feed' = feed from Option.some.inj (hbelongs.1.symm.trans hm)] at hbelongs
  have hact : ∀ x, x ≠ .close feed → x ≠ .unsubscribe feed c.number →
      (c.number, c.mailbox) ∈ (w.exchange.act x).subscribersOf feed := fun x hx hx' ↦
    Exchange.mem_subscribersOf_act_of_ne hw.numbered hbelongs
      (hread (hstage ▸ CourierStage.noConfusion)) hx hx' hmem
  cases a with
  | openView | closeView | search => exact hmem
  | exchange x =>
    obtain ⟨notes, heq⟩ := w.exists_act_exchange x
    rw [heq]
    exact hact x (fun h ↦ hclose (h ▸ rfl)) fun h ↦ hunsubscribe (h ▸ rfl)
  | track q matched start =>
    rw [World.act]
    split <;> exact hmem
  | next i | previous i =>
    rw [World.act, World.stepWith]
    split
    · exact hmem
    · split <;> exact hmem
  | apply i view change => rw [World.act, exchange_apply]; exact hmem
  | follow i feed' view =>
    have hsubscribed := hact (.subscribe feed') (fun h ↦ by cases h) fun h ↦ by cases h
    rw [World.act]
    rcases w.follow_cases i feed' view with
      ⟨-, -, heq | heq⟩ | ⟨-, f, notes, -, -, -, -, -, hsubscribe, heq⟩ <;> rw [heq]
    · exact hmem
    · exact hsubscribed
    · rw [hsubscribe] at hsubscribed
      exact Exchange.mem_subscribersOf_updateFeed_of_mem hsubscribed fun _ _ ↦ id
  | retire i =>
    exact hw.mem_subscribersOf_retire hc hm hmem fun hi ↦ hends (.inl (hi ▸ rfl))
  | drop i =>
    exact hw.mem_subscribersOf_retire hc hm hmem fun hi ↦ hends (.inr (.inl (hi ▸ rfl)))
  | carry j' =>
    exact hw.mem_subscribersOf_carries hc hm hmem (w.carries_carry j') fun hj ↦
      hends (.inr (.inr (hj ▸ rfl)))

end Listed

/-! ### Runs -/

theorem feedOf_act {m : MailboxId} {feed : FeedId} (hm : w.exchange.feedOf m = some feed)
    (a : Action α) : (w.act a).exchange.feedOf m = some feed :=
  preserved_act (P := fun x ↦ x.feedOf m = some feed) (fun _ x h ↦ Exchange.feedOf_act x h) a hm

/-- Nobody lists the mailbox of an earlier subscription again. -/
theorem mem_subscribersOf_of_act {m : MailboxId} {feed : FeedId}
    (hm : w.exchange.feedOf m = some feed) {a : Action α} {i : FeedId} {n : Nat}
    (hmem : (n, m) ∈ (w.act a).exchange.subscribersOf i) :
    (n, m) ∈ w.exchange.subscribersOf i := by
  by_contra hnot
  have hafter := preserved_act (P := fun x ↦ x.feedOf m = some feed ∧ (n, m) ∉ x.subscribersOf i)
    (fun _ x h ↦ Exchange.not_mem_subscribersOf_act h x) a ⟨hm, hnot⟩
  exact hafter.2 hmem

theorem exists_linked_run (hw : w.Linked number) {actions : List (Action α)}
    (h : w.Obeys Possible actions) : ∃ number', (w.run actions).Linked number' := by
  induction actions generalizing w number with
  | nil => exact ⟨number, hw⟩
  | cons a actions ih =>
    obtain ⟨number', hw'⟩ := hw.act h.1
    exact ih hw' h.2

/-- A courier and the feed of its mailbox. If the courier is out of work, its subscription is not
listed any more. -/
structure Tended (w : World α) (j : CourierId) (c : Courier) (feed : FeedId) : Prop where
  courier : w.couriers[j]? = some c
  feedOf : w.exchange.feedOf c.mailbox = some feed
  unlisted : c.stage ≠ .running → ∀ i n, (n, c.mailbox) ∉ w.exchange.subscribersOf i

/-- The actions of a run by which the finder loses this link, in order. -/
def endings (w : World α) (i : FinderId) (l : Link) : List (Action α) → List (Action α)
  | [] => []
  | a :: actions =>
    (if w.linkOf i = some l ∧ (w.act a).linkOf i ≠ some l then [a] else []) ++
      (w.act a).endings i l actions

section Tended

variable {feed : FeedId}

omit [Findable α] in
/-- The finder has the link as long as the courier is at work. -/
theorem Tended.linkOf_eq_iff (h : w.Tended j c feed) (hw : w.Linked number) :
    w.linkOf c.finder = some ⟨feed, c.number, j⟩ ↔ c.stage = .running := by
  constructor
  · intro hlink
    obtain ⟨f, hf, hl⟩ := Option.bind_eq_some_iff.1 hlink
    obtain ⟨-, c', hc', -, hstage⟩ := hw.link hf hl
    rw [h.courier, Option.some.injEq] at hc'
    rw [hc', hstage]
  · intro hstage
    obtain ⟨f, feed', hf, hfeed, hl⟩ := hw.running h.courier hstage
    rw [h.feedOf, Option.some.injEq] at hfeed
    rw [World.linkOf, hf, hfeed]
    exact hl

theorem Tended.act (h : w.Tended j c feed) (hw : w.Linked number) (a : Action α) :
    ∃ stage, (w.act a).Tended j { c with stage } feed ∧ (stage = c.stage ∨
      stage ≠ .running ∧ (c.stage = .running → a.Ends c.finder j)) := by
  obtain ⟨stage, hc, hcases⟩ := hw.keepsUnless_act h.courier a
  refine ⟨stage, ⟨hc, feedOf_act h.feedOf a, fun hstage i n hmem ↦ ?_⟩,
    hcases.imp_right fun ⟨hstage, hended⟩ ↦ ⟨hstage, fun hrunning ↦ (hended hrunning).1⟩⟩
  by_cases hrunning : c.stage = .running
  · rcases hcases with heq | ⟨-, hended⟩
    · exact hstage (heq.trans hrunning)
    · exact (hended hrunning).2 i n hmem
  · exact h.unlisted hrunning i n (mem_subscribersOf_of_act h.feedOf hmem)

/-- A courier that is out of work stays so, and its finder has the link no more. -/
theorem Tended.run_of_ne (h : w.Tended j c feed) (hw : w.Linked number)
    (hstage : c.stage ≠ .running) {later : List (Action α)} (hlater : w.Obeys Possible later) :
    ∃ stage, (w.run later).Tended j { c with stage } feed ∧ stage ≠ .running ∧
      w.endings c.finder ⟨feed, c.number, j⟩ later = [] := by
  induction later generalizing w c number with
  | nil => exact ⟨c.stage, h, hstage, rfl⟩
  | cons a later ih =>
    obtain ⟨number', hw'⟩ := hw.act hlater.1
    obtain ⟨stage, h', hcases⟩ := h.act hw a
    have hstage' : stage ≠ .running := by
      rcases hcases with rfl | ⟨hne, -⟩
      · exact hstage
      · exact hne
    obtain ⟨stage'', h'', hne, hnil⟩ := ih h' hw' hstage' hlater.2
    refine ⟨stage'', h'', hne, ?_⟩
    rw [endings, if_neg fun hends ↦ hstage ((h.linkOf_eq_iff hw).1 hends.1), hnil]
    rfl

/-- A courier that is at work stays so as it is, with its link, or its link ends once. -/
theorem Tended.run (h : w.Tended j c feed) (hw : w.Linked number) (hstage : c.stage = .running)
    {later : List (Action α)} (hlater : w.Obeys Possible later) :
    (w.run later).Tended j c feed ∧ w.endings c.finder ⟨feed, c.number, j⟩ later = [] ∨
      ∃ stage, (w.run later).Tended j { c with stage } feed ∧ stage ≠ .running ∧
        ∃ a, w.endings c.finder ⟨feed, c.number, j⟩ later = [a] ∧ a.Ends c.finder j := by
  induction later generalizing w number with
  | nil => exact .inl ⟨h, rfl⟩
  | cons a later ih =>
    obtain ⟨number', hw'⟩ := hw.act hlater.1
    obtain ⟨stage, h', rfl | ⟨hne, hends⟩⟩ := h.act hw a
    · rw [endings, if_neg fun hends ↦ hends.2 ((h'.linkOf_eq_iff hw').2 hstage)]
      exact ih h' hw' hlater.2
    · obtain ⟨stage', h'', hne', hnil⟩ := h'.run_of_ne hw' hne hlater.2
      refine .inr ⟨stage', h'', hne', a, ?_, hends hstage⟩
      rw [endings, if_pos ⟨(h.linkOf_eq_iff hw).2 hstage, mt (h'.linkOf_eq_iff hw').1 hne⟩, hnil]
      rfl

end Tended

/-! ### Every link of a run -/

omit [Findable α] in
theorem subscribe_of_follow {feed : FeedId} {view : Option ViewId}
    (hok : (w.follow i feed view).1 = .ok ()) :
    ∃ s, (w.exchange.subscribe feed).1 = .ok s := by
  rw [World.follow] at hok
  split at hok
  · cases hok
  · split at hok
    · cases hok
    · split at hok
      · cases hok
      · split at hok <;> rename_i heq
        · cases hok
        · exact ⟨_, by rw [heq]⟩

/-- A new link has a courier at work, with the mailbox of a new subscription. -/
theorem tended_follow {feed : FeedId} {view : Option ViewId} {s : Subscription}
    (hok : (w.follow i feed view).1 = .ok ()) (hs : (w.exchange.subscribe feed).1 = .ok s) :
    (w.act (.follow i feed view)).Tended w.couriers.length
      { finder := i, mailbox := s.mailbox, number := s.number, view } feed := by
  rcases w.follow_cases i feed view with
    ⟨fault, herror, -⟩ | ⟨f, fd, notes, -, -, -, hfd, hopen, -, heq⟩
  · rw [hok] at herror
    cases herror
  · rcases w.exchange.subscribe_cases feed with ⟨fault, herror, -⟩ | ⟨fd', hfd', -, heq'⟩
    · rw [hs] at herror
      cases herror
    · rw [heq', Except.ok.injEq] at hs
      rw [hfd, Option.some.injEq] at hfd'
      subst hs hfd'
      rw [World.act, heq]
      exact ⟨List.getElem?_concat_length,
        (w.exchange.belongs_withSubscription (fun _ ↦ 0) feed fd).1, fun h ↦ absurd rfl h⟩

/-- What a run makes of a link of a finder, whose subscription has this mailbox. -/
structure LinkHistory (w : World α) (i : FinderId) (l : Link) (m : MailboxId)
    (view : Option ViewId) (later : List (Action α)) : Prop where
  /-- The courier keeps to its finder and its mailbox, and is at work as long as the link is
  there. -/
  courier : ∃ stage, (w.run later).couriers[l.courier]? =
      some { finder := i, mailbox := m, number := l.number, view, stage } ∧
    (stage = .running ↔ (w.run later).linkOf i = some l)
  /-- A subscription that is listed still is the one of the link, and the finder is in use. -/
  listed : ∀ feed n, (n, m) ∈ (w.run later).exchange.subscribersOf feed →
    feed = l.feed ∧ n = l.number ∧ ∃ f, (w.run later).finders[i]? = some f ∧ f.link = some l ∧
      f.hits.retired = false ∧ f.gone = false
  /-- The link is there, or it has ended once. -/
  ended : (w.run later).linkOf i = some l ∧ w.endings i l later = [] ∨
    (w.run later).linkOf i ≠ some l ∧ ∃ a, w.endings i l later = [a] ∧ a.Ends i l.courier
  /-- The subscription is listed until the link ends, or the feed or the number is given up. -/
  delisted : ∀ earlier a rest, later = earlier ++ a :: rest →
    (l.number, m) ∈ (w.run earlier).exchange.subscribersOf l.feed →
    (l.number, m) ∉ ((w.run earlier).act a).exchange.subscribersOf l.feed →
    a = .exchange (.close l.feed) ∨ a = .exchange (.unsubscribe l.feed l.number) ∨
      a.Ends i l.courier

theorem Tended.linkHistory {feed : FeedId} (h : w.Tended j c feed) (hw : w.Linked number)
    (hstage : c.stage = .running) {later : List (Action α)} (hlater : w.Obeys Possible later) :
    w.LinkHistory c.finder ⟨feed, c.number, j⟩ c.mailbox c.view later := by
  obtain ⟨number', hw'⟩ := exists_linked_run hw hlater
  constructor
  case courier =>
    rcases h.run hw hstage hlater with ⟨h', -⟩ | ⟨stage, h', -⟩
    · exact ⟨c.stage, h'.courier, (h'.linkOf_eq_iff hw').symm⟩
    · exact ⟨stage, h'.courier, (h'.linkOf_eq_iff hw').symm⟩
  case listed =>
    intro i n hmem
    rcases h.run hw hstage hlater with ⟨h', -⟩ | ⟨stage, h', hne, -⟩
    · obtain ⟨f, feed', hf, hfeed, hl⟩ := hw'.running h'.courier hstage
      obtain ⟨⟨feed'', hbelongs⟩, -⟩ := hw'.mailbox h'.courier
      obtain ⟨hi, hn⟩ := (hw'.numbered.subscribersOf i).2 _ hmem
      rw [h'.feedOf, Option.some.injEq] at hfeed hi
      refine ⟨hi.symm, hn.trans hbelongs.2.symm, f, hf, hfeed ▸ hl, (hw'.link hf hl).1,
        hw'.gone_eq_false hf hl⟩
    · exact absurd hmem (h'.unlisted hne i n)
  case ended =>
    rcases h.run hw hstage hlater with ⟨h', hnil⟩ | ⟨stage, h', hne, hone⟩
    · exact .inl ⟨(h'.linkOf_eq_iff hw').2 hstage, hnil⟩
    · exact .inr ⟨mt (h'.linkOf_eq_iff hw').1 hne, hone⟩
  case delisted =>
    rintro earlier a rest rfl hmem hnot
    obtain ⟨hearlier, hrest⟩ := obeys_append.1 hlater
    obtain ⟨number₁, hw₁⟩ := exists_linked_run hw hearlier
    rcases h.run hw hstage hearlier with ⟨h₁, -⟩ | ⟨stage, h₁, hne, -⟩
    · by_contra hother
      obtain ⟨hclose, hother⟩ := not_or.1 hother
      obtain ⟨hunsubscribe, hends⟩ := not_or.1 hother
      exact hnot (hw₁.mem_subscribersOf_act h₁.courier hstage h₁.feedOf hmem hclose hunsubscribe
        hends)
    · exact absurd hmem (h₁.unlisted hne feed c.number)

/-- Links, subscriptions and couriers agree in every world that possible actions lead to. A finder
has a link if and only if a courier is at work for it, which is the one of the link and reads its
subscription; retired hits have none. And whatever becomes of a link that a finder gets, no
subscription is left behind, and it ends at most once: with its finder, or with its own courier. -/
theorem links_in_step {actions : List (Action α)} (h : ({} : World α).Obeys Possible actions) :
    let w := ({} : World α).run actions
    (∀ i f, w.finders[i]? = some f →
      (∀ j, w.AtWork i j ↔ ∃ l, f.link = some l ∧ l.courier = j) ∧
      (∀ l, f.link = some l → ∃ c, w.couriers[l.courier]? = some c ∧ c.number = l.number ∧
        w.exchange.feedOf c.mailbox = some l.feed ∧ w.exchange.isRead c.mailbox = true) ∧
      (f.hits.retired = true → f.link = none)) ∧
    ∀ earlier i feed view later, actions = earlier ++ .follow i feed view :: later →
      let w₀ := ({} : World α).run earlier
      (w₀.follow i feed view).1 = .ok () →
      ∃ s, (w₀.exchange.subscribe feed).1 = .ok s ∧
        (w₀.act (.follow i feed view)).LinkHistory i ⟨feed, s.number, w₀.couriers.length⟩
          s.mailbox view later := by
  intro w
  refine ⟨fun i f hf ↦ ?_, ?_⟩
  · obtain ⟨number, hw⟩ := exists_linked_run (linked_empty fun _ ↦ 0) h
    refine ⟨fun j ↦ ⟨?_, ?_⟩, fun l hl ↦ ?_, hw.link_eq_none hf⟩
    · rintro ⟨c, hc, rfl, hstage⟩
      obtain ⟨f', feed, hf', -, hl⟩ := hw.running hc hstage
      rw [hf, Option.some.injEq] at hf'
      exact ⟨_, hf' ▸ hl, rfl⟩
    · rintro ⟨l, hl, rfl⟩
      exact (hw.link hf hl).2
    · obtain ⟨c, hc, -, hstage, hbelongs, hnumber⟩ := hw.exists_courier hf hl
      exact ⟨c, hc, hnumber.symm, hbelongs.1,
        (hw.mailbox hc).2 (hstage ▸ CourierStage.noConfusion)⟩
  · rintro earlier i feed view later rfl w₀ hok
    obtain ⟨s, hs⟩ := subscribe_of_follow hok
    obtain ⟨hearlier, hfollow, hlater⟩ := obeys_append.1 h
    obtain ⟨number, hw₀⟩ := exists_linked_run (linked_empty fun _ ↦ 0) hearlier
    obtain ⟨number', hw₁⟩ := hw₀.act hfollow
    exact ⟨s, hs, (tended_follow hok hs).linkHistory hw₁ rfl hlater⟩

/-- Two finders follow two feeds under the same number. The view of one of them closes, so its
courier ends the link by the change that it brings next; the finder follows the other feed then,
until that is closed, and the other finder is retired. -/
theorem links_in_step_nodes :
    let q := Query.ofText .default "filter"
    let row : Node := { id := "node:1", kind := "filter", label := "Row" }
    let earlier : List (Action Node) :=
      [.exchange (.openFeed 1), .exchange (.openFeed 1), .openView, .search q [], .search q [],
        .follow 1 0 none]
    let later : List (Action Node) :=
      [.closeView 0, .exchange (.announce 1 (.added row)), .exchange (.advance 0),
        .exchange (.advance 0), .exchange (.advance 0), .carry 1, .follow 0 0 none,
        .exchange (.close 0), .carry 2, .retire 1, .carry 0, .drop 0]
    let w₀ := ({} : World Node).run earlier
    let w₁ := w₀.act (.follow 0 1 (some 0))
    w₁.linkOf 0 = some ⟨1, 1, 1⟩ ∧ w₁.linkOf 1 = some ⟨0, 1, 0⟩ ∧
      (∃ a, w₁.endings 0 ⟨1, 1, 1⟩ later = [a] ∧ a.Ends 0 1) ∧
      (∀ feed n, (n, 1) ∉ (w₁.run later).exchange.subscribersOf feed) ∧
      ∀ j, ¬(w₁.run later).AtWork 0 j := by
  intro q row earlier later w₀ w₁
  have hactions : ({} : World Node).Obeys Possible (earlier ++ .follow 0 1 (some 0) :: later) := by
    decide +kernel
  have hok : (w₀.follow 0 1 (some 0)).1 = .ok () := by decide +kernel
  have hsubscribed : (w₀.exchange.subscribe 1).1 = .ok ⟨1, 1⟩ := by decide +kernel
  have hlinks : w₁.linkOf 0 = some ⟨1, 1, 1⟩ ∧ w₁.linkOf 1 = some ⟨0, 1, 0⟩ := by decide +kernel
  have hcouriers : w₀.couriers.length = 1 := by decide +kernel
  have hfree : ((w₁.run later).finders[0]?).map (·.link) = some none := by decide +kernel
  have hrun : ({} : World Node).run (earlier ++ .follow 0 1 (some 0) :: later) = w₁.run later := by
    rw [run_append, run_cons]
  have hw₁ : w₀.act (.follow 0 1 (some 0)) = w₁ := rfl
  obtain ⟨hfinders, hlinked⟩ := links_in_step hactions
  rw [hrun] at hfinders
  have hhistory := hlinked earlier 0 1 (some 0) later rfl hok
  rw [hcouriers, hw₁, hsubscribed] at hhistory
  -- what the run leads to is known now, and need not be computed again
  clear hlinked hactions hrun hw₁
  clear_value later w₁
  obtain ⟨s, hs, hhistory⟩ := hhistory
  rw [Except.ok.injEq] at hs
  subst hs
  obtain ⟨f, hf, hnone⟩ := Option.map_eq_some_iff.1 hfree
  have hended : (w₁.run later).linkOf 0 ≠ some ⟨1, 1, 1⟩ := by
    rw [linkOf, hf, Option.bind_some, hnone]
    nofun
  refine ⟨hlinks.1, hlinks.2, ?_, fun feed n hmem ↦ ?_, fun j hj ↦ ?_⟩
  · exact (hhistory.ended.resolve_left fun h ↦ hended h.1).2
  · obtain ⟨-, -, f', hf', hl, -⟩ := hhistory.listed feed n hmem
    exact hended (Option.bind_eq_some_iff.2 ⟨f', hf', hl⟩)
  · obtain ⟨l, hl, -⟩ := ((hfinders 0 f hf).1 j).1 hj
    rw [hnone] at hl
    cases hl

end World

end LiveFind
