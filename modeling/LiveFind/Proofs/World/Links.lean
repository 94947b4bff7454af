import LiveFind.Proofs.Exchange.Numbering
import LiveFind.Proofs.World.Run

/-!
# Links and couriers

A finder that follows a feed and the courier that works for it know of each other by indices and by
the number of a subscription. `Linked` says that the two sides never disagree: a courier at work is
named by the link of its finder, and every link names a courier at work, for hits that are not
retired. Couriers have mailboxes of their own, which somebody reads until they are given back.

The invariant is kept by every action that is possible (`Possible`): nobody else reads the mailbox
of a courier, and a feed is let go only by those who hold it. Who owns what they use (`Owned`) does
not end the subscription of a link by its number either. Ending a link is where all parts change at
once, so it is one lemma for its two ways (`Linked.detach`).

As long as a courier is at work its finder is there, so it brings what it finds to the hits
(`Linked.carry_of_queued`), and they take it if the view is open (`Linked.carry_of_open`).
-/

namespace LiveFind

namespace World

variable {α : Type} [BEq α] [Hashable α]

/-- How many finders follow a feed. -/
def followers (w : World α) (feed : FeedId) : Nat :=
  w.finders.countP fun f ↦ f.link.any (·.feed == feed)

/-- What is done from outside is done to one's own things: mailboxes that no courier reads,
subscriptions that no link names, and feeds that more hold than follow them. -/
def Owned (w : World α) : Action α → Prop
  | .exchange (.receive mailbox) | .exchange (.discard mailbox) =>
    ∀ c ∈ w.couriers, c.mailbox ≠ mailbox
  | .exchange (.unsubscribe feed number) =>
    ∀ f ∈ w.finders, ∀ l, f.link = some l → ¬(l.feed = feed ∧ l.number = number)
  | .exchange (.release feed) =>
    ∀ f, w.exchange.feeds[feed]? = some f → w.followers feed < f.holders
  | _ => True

instance (w : World α) : DecidablePred w.Owned
  | .exchange (.receive mailbox) | .exchange (.discard mailbox) =>
    inferInstanceAs (Decidable (∀ c ∈ w.couriers, c.mailbox ≠ mailbox))
  | .exchange (.unsubscribe feed number) =>
    inferInstanceAs (Decidable (∀ f ∈ w.finders, ∀ l ∈ f.link,
      ¬(l.feed = feed ∧ l.number = number)))
  | .exchange (.release feed) =>
    inferInstanceAs (Decidable (∀ f ∈ w.exchange.feeds[feed]?, w.followers feed < f.holders))
  | .exchange (.openFeed _) | .exchange (.hold _) | .exchange (.close _) | .exchange (.subscribe _)
  | .exchange (.announce ..) | .exchange (.advance _) | .exchange (.abandon _) | .openView
  | .closeView _ | .search .. | .track .. | .next _ | .previous _ | .apply .. | .follow ..
  | .retire _ | .drop _ | .carry _ => .isTrue trivial

/-- What can be done from outside: a courier does not give its mailbox away, and nobody lets a feed
go who does not hold it. Subscriptions are ended by their numbers, and those anybody may use. -/
def Possible (w : World α) : Action α → Prop
  | .exchange (.receive mailbox) | .exchange (.discard mailbox) =>
    ∀ c ∈ w.couriers, c.mailbox ≠ mailbox
  | .exchange (.release feed) =>
    ∀ f, w.exchange.feeds[feed]? = some f → w.followers feed < f.holders
  | _ => True

instance (w : World α) : DecidablePred w.Possible
  | .exchange (.receive mailbox) | .exchange (.discard mailbox) =>
    inferInstanceAs (Decidable (∀ c ∈ w.couriers, c.mailbox ≠ mailbox))
  | .exchange (.release feed) =>
    inferInstanceAs (Decidable (∀ f ∈ w.exchange.feeds[feed]?, w.followers feed < f.holders))
  | .exchange (.openFeed _) | .exchange (.hold _) | .exchange (.close _) | .exchange (.subscribe _)
  | .exchange (.unsubscribe ..) | .exchange (.announce ..) | .exchange (.advance _)
  | .exchange (.abandon _) | .openView | .closeView _ | .search .. | .track .. | .next _
  | .previous _ | .apply .. | .follow .. | .retire _ | .drop _ | .carry _ => .isTrue trivial

theorem Owned.possible {w : World α} {a : Action α} (ha : w.Owned a) : w.Possible a := by
  cases a with
  | exchange x =>
    cases x with
    | receive | discard | release => exact ha
    | _ => trivial
  | _ => trivial

/-- Links and couriers agree, under some numbering of the mailboxes. -/
structure Linked (w : World α) (number : MailboxId → Nat) : Prop where
  numbered : w.exchange.Numbered number
  mailbox : ∀ {j : CourierId} {c : Courier}, w.couriers[j]? = some c →
    (∃ feed, w.exchange.Belongs number feed (c.number, c.mailbox)) ∧
      (c.stage ≠ .ended → w.exchange.isRead c.mailbox = true)
  separate : ∀ {j j' : CourierId} {c c' : Courier}, w.couriers[j]? = some c →
    w.couriers[j']? = some c' → c.mailbox = c'.mailbox → j = j'
  running : ∀ {j : CourierId} {c : Courier}, w.couriers[j]? = some c → c.stage = .running →
    ∃ f feed, w.finders[c.finder]? = some f ∧ w.exchange.feedOf c.mailbox = some feed ∧
      f.link = some ⟨feed, c.number, j⟩
  link : ∀ {i : FinderId} {f : Finder α} {l : Link}, w.finders[i]? = some f → f.link = some l →
    f.hits.retired = false ∧
      ∃ c, w.couriers[l.courier]? = some c ∧ c.finder = i ∧ c.stage = .running
  gone : ∀ {f : Finder α}, f ∈ w.finders → f.gone = true → f.hits.retired = true
  held : ∀ {feed : FeedId} {f : Feed}, w.exchange.feeds[feed]? = some f →
    w.followers feed ≤ f.holders

variable {w : World α} {number : MailboxId → Nat}

theorem linked_empty (number : MailboxId → Nat) : Linked ({} : World α) number where
  numbered := Exchange.numbered_empty number
  mailbox h := by simp at h
  separate h := by simp at h
  running h := by simp at h
  link h := by simp at h
  gone h := by simp at h
  held h := by simp at h

/-- Views and notes do not matter. -/
theorem Linked.congr (hw : w.Linked number) {w' : World α} (hexchange : w'.exchange = w.exchange)
    (hfinders : w'.finders = w.finders) (hcouriers : w'.couriers = w.couriers) :
    w'.Linked number := by
  obtain ⟨exchange, finders, couriers, views, notes⟩ := w'
  subst hexchange hfinders hcouriers
  exact ⟨hw.1, hw.2, hw.3, hw.4, hw.5, hw.6, hw.7⟩

/-- The link of a finder names the subscription that its courier reads. -/
theorem Linked.exists_courier (hw : w.Linked number) {i : FinderId} {f : Finder α} {l : Link}
    (hf : w.finders[i]? = some f) (hl : f.link = some l) :
    ∃ c, w.couriers[l.courier]? = some c ∧ c.finder = i ∧ c.stage = .running ∧
      w.exchange.Belongs number l.feed (l.number, c.mailbox) ∧ l.number = c.number := by
  obtain ⟨-, c, hc, rfl, hstage⟩ := hw.link hf hl
  obtain ⟨f', feed, hf', hfeed, hl'⟩ := hw.running hc hstage
  rw [hf, Option.some.injEq] at hf'
  rw [← hf', hl, Option.some.injEq] at hl'
  obtain ⟨⟨feed', hfeed', hnumber⟩, -⟩ := hw.mailbox hc
  refine ⟨c, hc, rfl, hstage, ?_, by rw [hl']⟩
  rw [hl']
  exact ⟨hfeed, hnumber⟩

/-- Who follows a feed is not gone. -/
theorem Linked.gone_eq_false (hw : w.Linked number) {i : FinderId} {f : Finder α} {l : Link}
    (hf : w.finders[i]? = some f) (hl : f.link = some l) : f.gone = false := by
  refine Bool.eq_false_iff.2 fun hgone ↦ ?_
  have hretired := hw.gone (List.mem_of_getElem? hf) hgone
  rw [(hw.link hf hl).1] at hretired
  cases hretired

/-- Whose hits are retired follows no feed. -/
theorem Linked.link_eq_none (hw : w.Linked number) {i : FinderId} {f : Finder α}
    (hf : w.finders[i]? = some f) (hretired : f.hits.retired = true) : f.link = none := by
  refine Option.eq_none_iff_forall_ne_some.2 fun l hl ↦ ?_
  rw [(hw.link hf hl).1] at hretired
  cases hretired

/-- Nobody follows a feed that there is not. -/
theorem Linked.followers_eq_zero (hw : w.Linked number) {feed : FeedId}
    (hnone : w.exchange.feeds[feed]? = none) : w.followers feed = 0 := by
  refine List.countP_eq_zero.2 fun f hf hany ↦ ?_
  obtain ⟨i, hi⟩ := List.mem_iff_getElem?.1 hf
  cases hl : f.link with
  | none => rw [hl] at hany; cases hany
  | some l =>
    rw [hl] at hany
    obtain ⟨c, -, -, -, ⟨hfeed, -⟩, -⟩ := hw.exists_courier hi hl
    obtain ⟨f', hf', -⟩ := hw.numbered.lt_next hfeed
    rw [beq_iff_eq.1 hany, hnone] at hf'
    cases hf'

/-! ### Changing one part -/

/-- The exchange may change where couriers keep their mailboxes and the feeds enough holders. -/
theorem Linked.withExchange (hw : w.Linked number) {x : Exchange α} {number' : MailboxId → Nat}
    (hx : x.Numbered number')
    (hfeed : ∀ m feed, w.exchange.feedOf m = some feed →
      x.feedOf m = some feed ∧ number' m = number m)
    (hread : ∀ c ∈ w.couriers, c.stage ≠ .ended → w.exchange.isRead c.mailbox = true →
      x.isRead c.mailbox = true)
    (hheld : ∀ {feed f}, x.feeds[feed]? = some f → w.followers feed ≤ f.holders) :
    ({ w with exchange := x } : World α).Linked number' where
  numbered := hx
  mailbox hc := by
    obtain ⟨⟨feed, hm, hnumber⟩, hreads⟩ := hw.mailbox hc
    obtain ⟨hm', heq⟩ := hfeed _ _ hm
    exact ⟨⟨feed, hm', hnumber.trans heq.symm⟩,
      fun hstage ↦ hread _ (List.mem_of_getElem? hc) hstage (hreads hstage)⟩
  separate := hw.separate
  running hc hstage := by
    obtain ⟨f, feed, hf, hm, hl⟩ := hw.running hc hstage
    exact ⟨f, feed, hf, (hfeed _ _ hm).1, hl⟩
  link := hw.link
  gone := hw.gone
  held := hheld

theorem countP_modify {β : Type} (p : β → Bool) {l : List β} {i : Nat} {b : β}
    (hb : l[i]? = some b) (g : β → β) :
    (l.modify i g).countP p + (if p b then 1 else 0) =
      l.countP p + (if p (g b) then 1 else 0) := by
  obtain ⟨hi, rfl⟩ := List.getElem?_eq_some_iff.1 hb
  have hl := congrArg (List.countP p) (List.take_append_drop i l)
  rw [List.drop_eq_getElem_cons hi, List.countP_append, List.countP_cons] at hl
  rw [List.modify_eq_take_cons_drop hi, List.countP_append, List.countP_cons]
  omega

/-- A finder may change as long as it keeps its link, hits with a link do not retire, and those of a
finder that is gone do. -/
theorem Linked.updateFinder (hw : w.Linked number) {i : FinderId} {g : Finder α → Finder α}
    (hg : ∀ f, w.finders[i]? = some f → (g f).link = f.link ∧
      (∀ l, f.link = some l → (g f).hits.retired = false) ∧
      ((g f).gone = true → (g f).hits.retired = true)) :
    (w.updateFinder i g).Linked number := by
  -- every finder after the change has the link of the one in its place, and fits it
  have hsame : ∀ {i' : FinderId} {f' : Finder α}, (w.updateFinder i g).finders[i']? = some f' →
      ∃ f, w.finders[i']? = some f ∧ f'.link = f.link ∧
        (∀ l, f.link = some l → f'.hits.retired = false) ∧
        (f'.gone = true → f'.hits.retired = true) := by
    intro i' f' hf'
    obtain ⟨f, hf, rfl⟩ := Exchange.exists_of_getElem?_modify hf'
    refine ⟨f, hf, ?_⟩
    split
    · rename_i hi
      exact hg f (hi ▸ hf)
    · exact ⟨rfl, fun l hl ↦ (hw.link hf hl).1, hw.gone (List.mem_of_getElem? hf)⟩
  constructor
  case numbered => exact hw.numbered
  case mailbox => exact hw.mailbox
  case separate => exact hw.separate
  case running =>
    intro j c hc hstage
    obtain ⟨f, feed, hf, hfeed, hl⟩ := hw.running hc hstage
    have hf' := Exchange.getElem?_modify_of_some hf i g
    obtain ⟨f₁, hf₁, hl₁, -⟩ := hsame hf'
    rw [hf, Option.some.injEq] at hf₁
    exact ⟨_, feed, hf', hfeed, by rw [hl₁, ← hf₁, hl]⟩
  case link =>
    intro i' f' l hf' hl
    obtain ⟨f, hf, hl₁, hretired, -⟩ := hsame hf'
    rw [hl₁] at hl
    exact ⟨hretired _ hl, (hw.link hf hl).2⟩
  case gone =>
    intro f' hf' hgone
    obtain ⟨i', hi'⟩ := List.mem_iff_getElem?.1 hf'
    obtain ⟨-, -, -, -, hretired⟩ := hsame hi'
    exact hretired hgone
  case held =>
    intro feed f hfeed
    refine Nat.le_trans (Nat.le_of_eq ?_) (hw.held hfeed)
    rw [followers, followers, World.updateFinder]
    cases hf : w.finders[i]? with
    | none => rw [List.modify_eq_self (List.getElem?_eq_none_iff.1 hf)]
    | some f =>
      have hcount := countP_modify (fun f ↦ f.link.any (·.feed == feed)) hf g
      rw [(hg f hf).1] at hcount
      exact Nat.add_right_cancel hcount

theorem Linked.addFinder (hw : w.Linked number) (hits : Hits α) :
    (w.addFinder hits).2.Linked number := by
  constructor
  case numbered => exact hw.numbered
  case mailbox => exact hw.mailbox
  case separate => exact hw.separate
  case running =>
    intro j c hc hstage
    obtain ⟨f, feed, hf, hrest⟩ := hw.running hc hstage
    exact ⟨f, feed, Exchange.getElem?_concat_of_some hf _, hrest⟩
  case link =>
    intro i f' l hf' hl
    rcases Exchange.getElem?_concat_cases hf' with hf | ⟨-, rfl⟩
    · exact hw.link hf hl
    · cases hl
  case gone =>
    intro f' hf' hgone
    rcases List.mem_append.1 hf' with hf | hf
    · exact hw.gone hf hgone
    · rw [List.mem_singleton.1 hf] at hgone
      cases hgone
  case held =>
    intro feed f hfeed
    refine Nat.le_trans (Nat.le_of_eq ?_) (hw.held hfeed)
    exact List.countP_append.trans (Nat.add_zero _)

/-! ### The two ways to end a link -/

/-- The world with the link of a finder ended and its courier out of service. -/
def detach (w : World α) (i : FinderId) (l : Link) (g : Hits α → Hits α) : World α :=
  { w with
    exchange := (w.exchange.act (.unsubscribe l.feed l.number)).act (.release l.feed)
    finders := w.finders.modify i fun f ↦ { f with hits := g f.hits, link := none }
    couriers := w.couriers.modify l.courier fun c ↦ { c with stage := .stopping } }

/-- Couriers that keep their mailboxes keep them apart. -/
theorem Linked.separate_modify (hw : w.Linked number) {k : CourierId} {g : Courier → Courier}
    (hg : ∀ c, (g c).mailbox = c.mailbox) {j j' : CourierId} {c c' : Courier}
    (hc : (w.couriers.modify k g)[j]? = some c) (hc' : (w.couriers.modify k g)[j']? = some c')
    (hm : c.mailbox = c'.mailbox) : j = j' := by
  -- the mailbox of every courier is the one it had
  have hsame : ∀ {j : CourierId} {c : Courier}, (w.couriers.modify k g)[j]? = some c →
      ∃ c₁, w.couriers[j]? = some c₁ ∧ c.mailbox = c₁.mailbox := by
    intro j c hc
    obtain ⟨c₁, hc₁, rfl⟩ := Exchange.exists_of_getElem?_modify hc
    refine ⟨c₁, hc₁, ?_⟩
    split
    · exact hg c₁
    · rfl
  obtain ⟨c₁, hc₁, heq₁⟩ := hsame hc
  obtain ⟨c₂, hc₂, heq₂⟩ := hsame hc'
  exact hw.separate hc₁ hc₂ (heq₁.symm.trans (hm.trans heq₂))

theorem Linked.retire_eq_detach (hw : w.Linked number) {i : FinderId} {f : Finder α} {l : Link}
    (hf : w.finders[i]? = some f) (hl : f.link = some l) :
    ∃ notes, w.retire i = { w.detach i l Hits.retire with notes } := by
  obtain ⟨c, hc, -, hstage, -⟩ := hw.exists_courier hf hl
  refine ⟨w.notes ++ [.released f.hits.query.text l.number], ?_⟩
  rw [retire, hf]
  dsimp only
  rw [hl]
  dsimp only [unlink, World.updateFinder, updateCourier, detach, note, Exchange.act]
  rw [List.modify_modify_eq, Exchange.modify_congr hc (by rw [if_pos hstage])]
  rfl

theorem Linked.finish_eq_detach (hw : w.Linked number) {j : CourierId} {c : Courier}
    (hc : w.couriers[j]? = some c) (hstage : c.stage = .running) :
    ∃ f feed notes, w.finders[c.finder]? = some f ∧ w.exchange.feedOf c.mailbox = some feed ∧
      f.link = some ⟨feed, c.number, j⟩ ∧
      w.finish j c = { (w.detach c.finder ⟨feed, c.number, j⟩ id).putAway j c with notes } := by
  obtain ⟨f, feed, hf, hfeed, hl⟩ := hw.running hc hstage
  refine ⟨f, feed, w.notes ++ [.deliveryEnded f.hits.query.text c.number], hf, hfeed, hl, ?_⟩
  rw [finish, hf]
  dsimp only
  rw [hl]
  dsimp only
  rw [if_pos (by rw [hw.gone_eq_false hf hl]; exact beq_self_eq_true _)]
  dsimp only [unlink, World.updateFinder, updateCourier, detach, note, Exchange.act, putAway]
  rw [List.modify_modify_eq]
  rfl

theorem followers_detach {i : FinderId} {f : Finder α} {l : Link}
    (hf : w.finders[i]? = some f) (hl : f.link = some l) (g : Hits α → Hits α) (feed : FeedId) :
    (w.detach i l g).followers feed + (if l.feed = feed then 1 else 0) = w.followers feed := by
  have hcount := countP_modify (fun f : Finder α ↦ f.link.any (·.feed == feed)) hf fun f ↦
    { f with hits := g f.hits, link := none }
  simpa [followers, World.detach, hl] using hcount

/-- When a link ends, the courier and the finder forget each other, and the feed loses a follower
and a holder. -/
theorem Linked.detach (hw : w.Linked number) {i : FinderId} {f : Finder α} {l : Link}
    (hf : w.finders[i]? = some f) (hl : f.link = some l) (g : Hits α → Hits α) :
    (w.detach i l g).Linked number := by
  obtain ⟨c₀, hc₀, hi, hstage₀, -⟩ := hw.exists_courier hf hl
  constructor
  case numbered =>
    exact (hw.numbered.unsubscribe l.feed l.number).release l.feed
  case mailbox =>
    intro j c hc
    -- the courier still has to give its mailbox back, so it is read until then
    obtain ⟨c₁, hc₁, rfl⟩ := Exchange.exists_of_getElem?_modify hc
    obtain ⟨hbelongs, hread⟩ := hw.mailbox hc₁
    split
    · rename_i hj
      rw [hj, hc₁, Option.some.injEq] at hc₀
      subst hc₀
      refine ⟨hbelongs, fun _ ↦ hread ?_⟩
      rw [hstage₀]
      exact CourierStage.noConfusion
    · exact ⟨hbelongs, hread⟩
  case separate =>
    intro j j' c c' hc hc' hm
    refine hw.separate_modify (fun _ ↦ ?_) hc hc' hm
    rfl
  case running =>
    intro j c hc hstage
    obtain ⟨c₁, hc₁, rfl⟩ := Exchange.exists_of_getElem?_modify hc
    by_cases hj : l.courier = j
    · rw [if_pos hj] at hstage
      cases hstage
    · rw [if_neg hj] at hstage ⊢
      obtain ⟨f₁, feed, hf₁, hfeed, hl₁⟩ := hw.running hc₁ hstage
      refine ⟨f₁, feed, ?_, hfeed, hl₁⟩
      -- the courier works for another finder, since each finder has one link
      have hne : i ≠ c₁.finder := by
        rintro rfl
        rw [hf, Option.some.injEq] at hf₁
        rw [← hf₁, hl, Option.some.injEq] at hl₁
        exact hj (by rw [hl₁])
      exact (Exchange.getElem?_modify_of_some hf₁ i _).trans (by rw [if_neg hne])
  case link =>
    intro i' f' l' hf' hl'
    obtain ⟨f₁, hf₁, rfl⟩ := Exchange.exists_of_getElem?_modify hf'
    by_cases hi' : i = i'
    · rw [if_pos hi'] at hl'
      cases hl'
    · rw [if_neg hi'] at hl' ⊢
      obtain ⟨hretired, c₁, hc₁, hfinder, hstage⟩ := hw.link hf₁ hl'
      refine ⟨hretired, c₁, ?_, hfinder, hstage⟩
      have hne : l.courier ≠ l'.courier := by
        intro heq
        rw [← heq, hc₀, Option.some.injEq] at hc₁
        exact hi' (by rw [← hi, hc₁, hfinder])
      exact (Exchange.getElem?_modify_of_some hc₁ _ _).trans (by rw [if_neg hne])
  case gone =>
    intro f' hf' hgone
    obtain ⟨i', hi'⟩ := List.mem_iff_getElem?.1 hf'
    obtain ⟨f₁, hf₁, rfl⟩ := Exchange.exists_of_getElem?_modify hi'
    by_cases hii' : i = i'
    · rw [hii', hf₁, Option.some.injEq] at hf
      rw [if_pos hii'] at hgone
      have hretired := hw.gone (List.mem_of_getElem? hf₁) hgone
      rw [(hw.link hf₁ (hf ▸ hl)).1] at hretired
      cases hretired
    · rw [if_neg hii'] at hgone ⊢
      exact hw.gone (List.mem_of_getElem? hf₁) hgone
  case held =>
    intro feed f' hf'
    -- where a follower is lost, so is a holder
    have hcount := followers_detach hf hl g feed
    obtain ⟨f₁, hf₁, rfl⟩ := Exchange.exists_of_getElem?_modify hf'
    obtain ⟨f₂, hf₂, rfl⟩ := Exchange.exists_of_getElem?_modify hf₁
    have hheld := hw.held hf₂
    by_cases hfeed : l.feed = feed
    · rw [if_pos hfeed] at hcount
      rw [if_pos hfeed, if_pos hfeed]
      show _ ≤ f₂.holders - 1
      omega
    · rw [if_neg hfeed] at hcount
      rw [if_neg hfeed, if_neg hfeed]
      omega

theorem Linked.putAway (hw : w.Linked number) {j : CourierId} {c : Courier}
    (hc : w.couriers[j]? = some c) (hstage : c.stage ≠ .running) :
    (w.putAway j c).Linked number := by
  have hfeedOf : ∀ m, (w.exchange.discard c.mailbox).feedOf m = w.exchange.feedOf m :=
    congrFun (Exchange.feedOf_discard c.mailbox)
  constructor
  case numbered =>
    exact hw.numbered.updateMailbox c.mailbox (fun _ ↦ rfl) fun _ h ↦ by cases h
  case mailbox =>
    intro j' c' hc'
    obtain ⟨c₁, hc₁, rfl⟩ := Exchange.exists_of_getElem?_modify hc'
    obtain ⟨⟨feed, hbelongs⟩, hread⟩ := hw.mailbox hc₁
    split
    · exact ⟨⟨feed, (hfeedOf _).trans hbelongs.1, hbelongs.2⟩, fun h ↦ absurd rfl h⟩
    · rename_i hj
      refine ⟨⟨feed, (hfeedOf _).trans hbelongs.1, hbelongs.2⟩, fun h ↦ ?_⟩
      have hne : Exchange.Action.discard c.mailbox ≠ .discard (α := α) c₁.mailbox := fun heq ↦
        hj (hw.separate hc hc₁ (Exchange.Action.discard.inj heq))
      exact (Exchange.isRead_act hne hbelongs.1).trans (hread h)
  case separate =>
    intro j' j'' c' c'' hc' hc'' hm
    refine hw.separate_modify (fun _ ↦ ?_) hc' hc'' hm
    rfl
  case running =>
    intro j' c' hc' hstage'
    obtain ⟨c₁, hc₁, rfl⟩ := Exchange.exists_of_getElem?_modify hc'
    split at hstage'
    · cases hstage'
    · rename_i hj
      rw [if_neg hj]
      obtain ⟨f, feed, hf, hfeed, hl⟩ := hw.running hc₁ hstage'
      exact ⟨f, feed, hf, (hfeedOf _).trans hfeed, hl⟩
  case link =>
    intro i f l hf hl
    obtain ⟨hretired, c₁, hc₁, hfinder, hstage₁⟩ := hw.link hf hl
    refine ⟨hretired, c₁, ?_, hfinder, hstage₁⟩
    have hne : j ≠ _ := fun heq ↦ hstage (by
      rw [heq, hc₁, Option.some.injEq] at hc
      rw [← hc, hstage₁])
    exact (Exchange.getElem?_modify_of_some hc₁ _ _).trans (by rw [if_neg hne])
  case gone => exact hw.gone
  case held => exact hw.held

theorem Linked.retire (hw : w.Linked number) (i : FinderId) : (w.retire i).Linked number := by
  cases hf : w.finders[i]? with
  | none => rw [World.retire, hf]; exact hw
  | some f =>
    cases hl : f.link with
    | none =>
      rw [World.retire, hf]
      dsimp only
      rw [hl]
      refine hw.updateFinder fun f' hf' ↦ ?_
      rw [hf, Option.some.injEq] at hf'
      subst hf'
      refine ⟨rfl, fun l hl' ↦ ?_, fun _ ↦ rfl⟩
      rw [hl] at hl'
      cases hl'
    | some l =>
      obtain ⟨notes, heq⟩ := hw.retire_eq_detach hf hl
      rw [heq]
      exact (hw.detach hf hl Hits.retire).congr rfl rfl rfl

theorem Linked.finish (hw : w.Linked number) {j : CourierId} {c : Courier}
    (hc : w.couriers[j]? = some c) (hstage : c.stage = .running) :
    (w.finish j c).Linked number := by
  obtain ⟨f, feed, notes, hf, -, hl, heq⟩ := hw.finish_eq_detach hc hstage
  have hc' : (w.detach c.finder ⟨feed, c.number, j⟩ id).couriers[j]? =
      some { c with stage := .stopping } :=
    (Exchange.getElem?_modify_of_some hc _ _).trans (by rw [if_pos rfl])
  rw [heq]
  exact ((hw.detach hf hl id).putAway hc' CourierStage.noConfusion).congr rfl rfl rfl

/-! ### Actions -/

section Actions

variable [Findable α]

omit [Findable α] in
theorem retired_of_retire {i : FinderId} {f' : Finder α}
    (hf' : (w.retire i).finders[i]? = some f') : f'.hits.retired = true := by
  rw [World.retire] at hf'
  split at hf'
  · rename_i hf
    rw [hf] at hf'
    cases hf'
  · dsimp only at hf'
    split at hf'
    · obtain ⟨f, -, rfl⟩ := Exchange.exists_of_getElem?_modify hf'
      rw [if_pos rfl]
      rfl
    · obtain ⟨f, hf, rfl⟩ := Exchange.exists_of_getElem?_modify hf'
      obtain ⟨f, -, rfl⟩ := Exchange.exists_of_getElem?_modify hf
      rw [if_pos rfl, if_pos rfl]
      rfl

omit [Findable α] in
theorem Linked.drop (hw : w.Linked number) (i : FinderId) : (w.dropFinder i).Linked number := by
  refine (hw.retire i).updateFinder fun f hf ↦ ⟨rfl, fun l hl ↦ ?_, fun _ ↦ ?_⟩
  · exact ((hw.retire i).link hf hl).1
  · have hretired := retired_of_retire hf
    exact hretired

/-- What is done in the exchange from outside, or by a broadcast. -/
theorem Linked.exchange (hw : w.Linked number) {a : Exchange.Action α}
    (ha : w.Possible (.exchange a)) : ∃ number', (w.act (.exchange a)).Linked number' := by
  obtain ⟨number', hx, heq⟩ := hw.numbered.act a
  obtain ⟨notes, hact⟩ := w.exists_act_exchange a
  refine ⟨number', ?_⟩
  rw [hact]
  refine (hw.withExchange hx (fun m feed hm ↦ ⟨Exchange.feedOf_act a hm, heq m feed hm⟩) ?_
    fun {feed f'} hf' ↦ ?_).congr rfl rfl rfl
  · intro c hc hstage hread
    obtain ⟨j, hj⟩ := List.mem_iff_getElem?.1 hc
    obtain ⟨⟨feed, hfeed, -⟩, -⟩ := hw.mailbox hj
    rw [Exchange.isRead_act ?_ hfeed]
    · exact hread
    · rintro rfl
      exact ha c hc rfl
  · by_cases hrelease : a = .release feed
    · subst hrelease
      obtain ⟨f, hf, rfl⟩ := Exchange.exists_of_getElem?_modify hf'
      rw [if_pos rfl]
      exact Nat.le_sub_one_of_lt (ha f hf)
    · cases hf : w.exchange.feeds[feed]? with
      | none => rw [hw.followers_eq_zero hf]; exact Nat.zero_le _
      | some f =>
        obtain ⟨f₁, hf₁, -, hle⟩ := Exchange.exists_feed_act hrelease hf
        rw [hf', Option.some.injEq] at hf₁
        exact Nat.le_trans (hw.held hf) (hf₁ ▸ hle)

omit [Findable α] in
theorem Linked.withReceived (hw : w.Linked number) (m : MailboxId) :
    (w.withReceived m).Linked number := by
  refine hw.withExchange (hw.numbered.receive m) (fun m' feed hm ↦ ⟨Exchange.feedOf_act _ hm, rfl⟩)
    (fun c hc _ hread ↦ ?_) fun hf ↦ ?_
  · obtain ⟨j, hj⟩ := List.mem_iff_getElem?.1 hc
    obtain ⟨⟨feed, hfeed, -⟩, -⟩ := hw.mailbox hj
    have hne : Exchange.Action.receive m ≠ .discard (α := α) c.mailbox :=
      fun heq ↦ by cases heq
    exact (Exchange.isRead_act hne hfeed).trans hread
  · rw [Exchange.feeds_act_receive] at hf
    exact hw.held hf

theorem Linked.apply (hw : w.Linked number) (i : FinderId) (view : Option ViewId)
    (c : Change α) : (w.apply i view c).2.Linked number := by
  rw [World.apply]
  split
  · exact hw
  · rename_i f hf
    have hretired := (f.hits.query_retired_apply (w.viewClosed view) c).2
    refine (hw.updateFinder fun f' hf' ↦ ?_).congr rfl rfl rfl
    rw [hf, Option.some.injEq] at hf'
    subst hf'
    exact ⟨rfl, fun l hl ↦ hretired.trans (hw.link hf hl).1,
      fun hgone ↦ hretired.trans (hw.gone (List.mem_of_getElem? hf) hgone)⟩

omit [Findable α] in
theorem Linked.stepWith (hw : w.Linked number) (i : FinderId)
    {step : Hits α → Except Fault (α × Hits α)}
    (hstep : ∀ {h a h'}, step h = .ok (a, h') → h'.retired = h.retired) :
    (w.stepWith i step).2.Linked number := by
  rw [World.stepWith]
  split
  · exact hw
  · rename_i f hf
    split
    · rename_i a hits hok
      refine hw.updateFinder fun f' hf' ↦ ?_
      rw [hf, Option.some.injEq] at hf'
      subst hf'
      exact ⟨rfl, fun l hl ↦ (hstep hok).trans (hw.link hf hl).1,
        fun hgone ↦ (hstep hok).trans (hw.gone (List.mem_of_getElem? hf) hgone)⟩
    · exact hw

theorem Linked.carries (hw : w.Linked number) {j : CourierId} {w' : World α}
    (h : w.Carries j w') : w'.Linked number := by
  cases h with
  | idle => exact hw
  | putAway hc hstage =>
    exact hw.putAway hc (by rw [hstage]; exact CourierStage.noConfusion)
  | finish hc hstage => exact hw.finish hc hstage
  | lose hc hstage => exact (hw.withReceived _).finish hc hstage
  | @refuse c change _ hc hstage =>
    refine ((hw.withReceived c.mailbox).apply c.finder c.view change).finish ?_ hstage
    rw [couriers_apply]
    exact hc
  | bring hc hstage => exact (hw.withReceived _).apply _ _ _

/-- A courier that finds a change brings it to the hits, which are there as long as it is at work,
and ends the link if they drop it. -/
theorem Linked.carry_of_queued (hw : w.Linked number) {j : CourierId} {c : Courier}
    (hc : w.couriers[j]? = some c) (hstage : c.stage = .running) {change : Change α}
    {rest : List (Change α)} (hqueue : w.exchange.queued c.mailbox = change :: rest) :
    let applied := (w.withReceived c.mailbox).apply c.finder c.view change
    applied.1 = .dropped ∧ w.act (.carry j) = applied.2.finish j c ∨
      applied.1 ≠ .dropped ∧ w.act (.carry j) = applied.2 := by
  intro applied
  have hcarry : w.act (.carry j) = (w.carry j).2 := rfl
  have hgone : (w.finders[c.finder]?).any (·.gone) = false := by
    obtain ⟨f, feed, hf, -, hl⟩ := hw.running hc hstage
    rw [hf, Option.any_some, hw.gone_eq_false hf hl]
  rcases w.exchange.receive_cases c.mailbox with ⟨hnil, -⟩ | ⟨change', rest', hqueue', heq⟩
  · rw [hqueue] at hnil
    cases hnil
  · rw [hqueue, List.cons.injEq] at hqueue'
    obtain ⟨rfl, rfl⟩ := hqueue'
    have hreceived : ({ w with exchange := (w.exchange.receive c.mailbox).2 } : World α) =
        w.withReceived c.mailbox := rfl
    rw [heq] at hreceived
    rw [hcarry, carry, hc]
    dsimp only
    rw [hstage]
    dsimp only
    rw [heq]
    dsimp only
    rw [hgone, hreceived, if_neg Bool.false_ne_true]
    split
    · rename_i w' happly
      refine .inl ⟨congrArg Prod.fst happly, ?_⟩
      rw [show applied.2 = w' from congrArg Prod.snd happly]
    · rename_i o w' hne happly
      refine .inr ⟨fun hdropped ↦ hne ?_, (congrArg Prod.snd happly).symm⟩
      exact (congrArg Prod.fst happly).symm.trans hdropped

/-- Hits with an open view take what a courier at work brings them. -/
theorem Linked.apply_ne_dropped (hw : w.Linked number) {j : CourierId} {c : Courier}
    (hc : w.couriers[j]? = some c) (hstage : c.stage = .running)
    (hview : w.viewClosed c.view = false) (change : Change α) :
    ((w.withReceived c.mailbox).apply c.finder c.view change).1 ≠ .dropped := by
  obtain ⟨f, feed, hf, -, hl⟩ := hw.running hc hstage
  have hopen : (w.withReceived c.mailbox).viewClosed c.view = false := hview
  intro hdropped
  obtain ⟨hretired | hclosed, -⟩ :=
    (World.apply_eq_dropped_iff (w := w.withReceived c.mailbox) hf c.view change).1 hdropped
  · rw [(hw.link hf hl).1] at hretired
    cases hretired
  · rw [hopen] at hclosed
    cases hclosed

/-- So a courier for an open view brings what it finds, and goes on. -/
theorem Linked.carry_of_open (hw : w.Linked number) {j : CourierId} {c : Courier}
    (hc : w.couriers[j]? = some c) (hstage : c.stage = .running)
    (hview : w.viewClosed c.view = false) {change : Change α} {rest : List (Change α)}
    (hqueue : w.exchange.queued c.mailbox = change :: rest) :
    w.act (.carry j) = ((w.withReceived c.mailbox).apply c.finder c.view change).2 := by
  rcases hw.carry_of_queued hc hstage hqueue with ⟨hdropped, -⟩ | ⟨-, heq⟩
  · exact absurd hdropped (hw.apply_ne_dropped hc hstage hview change)
  · exact heq

omit [Findable α] in
theorem followers_withLink {i : FinderId} {f : Finder α} (hf : w.finders[i]? = some f)
    (hlink : f.link = none) (feed : FeedId) (view : Option ViewId) (fd : Feed) (feed' : FeedId) :
    (w.withLink i feed view fd).followers feed' =
      w.followers feed' + if feed = feed' then 1 else 0 := by
  have hcount := countP_modify (fun f : Finder α ↦ f.link.any (·.feed == feed')) hf fun f ↦
    { f with link := some ⟨feed, fd.nextNumber, w.couriers.length⟩ }
  rw [hlink] at hcount
  simpa [followers, World.withLink] using hcount

omit [Findable α] in
/-- A new link gives the finder a courier with a mailbox of its own. -/
theorem Linked.withLink (hw : w.Linked number) {i : FinderId} {f : Finder α}
    (hf : w.finders[i]? = some f) (hretired : f.hits.retired = false) (hlink : f.link = none)
    {feed : FeedId} {fd : Feed} (hfd : w.exchange.feeds[feed]? = some fd)
    (hopen : fd.closed = false) (view : Option ViewId) :
    (w.withLink i feed view fd).Linked (w.exchange.renumber number fd) := by
  have hx := hw.numbered.withSubscription hfd hopen
  have hnew := w.exchange.belongs_withSubscription number feed fd
  constructor
  case numbered =>
    exact hx.hold feed
  case mailbox =>
    intro j c hc
    rcases Exchange.getElem?_concat_cases hc with hc | ⟨-, rfl⟩
    · obtain ⟨⟨feed', hbelongs⟩, hread⟩ := hw.mailbox hc
      exact ⟨⟨feed', hbelongs.withSubscription feed fd⟩, fun hstage ↦
        (Exchange.isRead_withSubscription hbelongs.1 feed fd).trans (hread hstage)⟩
    · exact ⟨⟨feed, hnew⟩, fun _ ↦ w.exchange.isRead_withSubscription_length feed fd⟩
  case separate =>
    intro j j' c c' hc hc' hm
    rcases Exchange.getElem?_concat_cases hc with hc | ⟨rfl, rfl⟩ <;>
      rcases Exchange.getElem?_concat_cases hc' with hc' | ⟨rfl, rfl⟩
    · exact hw.separate hc hc' hm
    · obtain ⟨⟨feed', hbelongs⟩, -⟩ := hw.mailbox hc
      exact absurd hm (Exchange.ne_length_of_feedOf hbelongs.1)
    · obtain ⟨⟨feed', hbelongs⟩, -⟩ := hw.mailbox hc'
      exact absurd hm.symm (Exchange.ne_length_of_feedOf hbelongs.1)
    · rfl
  case running =>
    intro j c hc hstage
    rcases Exchange.getElem?_concat_cases hc with hc | ⟨rfl, rfl⟩
    · obtain ⟨f₁, feed', hf₁, hfeed, hl⟩ := hw.running hc hstage
      obtain ⟨⟨feed'', hbelongs⟩, -⟩ := hw.mailbox hc
      have hfeed' := hfeed
      rw [hbelongs.1, Option.some.injEq] at hfeed'
      subst hfeed'
      refine ⟨f₁, _, ?_, (hbelongs.withSubscription feed fd).1, hl⟩
      -- the finder had no link, so it is not the one that the courier works for
      have hne : i ≠ c.finder := by
        rintro rfl
        rw [hf, Option.some.injEq] at hf₁
        rw [← hf₁, hlink] at hl
        cases hl
      exact (Exchange.getElem?_modify_of_some hf₁ i _).trans (by rw [if_neg hne])
    · exact ⟨_, feed, (Exchange.getElem?_modify_of_some hf i _).trans (by rw [if_pos rfl]),
        hnew.1, rfl⟩
  case link =>
    intro i' f' l hf' hl
    obtain ⟨f₁, hf₁, rfl⟩ := Exchange.exists_of_getElem?_modify hf'
    by_cases hi : i = i'
    · subst hi
      rw [hf, Option.some.injEq] at hf₁
      subst hf₁
      rw [if_pos rfl] at hl ⊢
      cases hl
      exact ⟨hretired, _, List.getElem?_concat_length, rfl, rfl⟩
    · rw [if_neg hi] at hl ⊢
      obtain ⟨hretired₁, c, hc, hrest⟩ := hw.link hf₁ hl
      exact ⟨hretired₁, c, Exchange.getElem?_concat_of_some hc _, hrest⟩
  case gone =>
    intro f' hf' hgone
    obtain ⟨i', hi'⟩ := List.mem_iff_getElem?.1 hf'
    obtain ⟨f₁, hf₁, rfl⟩ := Exchange.exists_of_getElem?_modify hi'
    have hgone₁ := hw.gone (List.mem_of_getElem? hf₁)
    split at hgone <;> rename_i hi
    · rw [if_pos hi]; exact hgone₁ hgone
    · rw [if_neg hi]; exact hgone₁ hgone
  case held =>
    intro feed' fd' hfd'
    obtain ⟨fd₁, hfd₁, rfl⟩ := Exchange.exists_of_getElem?_modify hfd'
    obtain ⟨fd₂, hfd₂, rfl⟩ := Exchange.exists_of_getElem?_modify hfd₁
    have hheld := hw.held hfd₂
    rw [followers_withLink hf hlink]
    split
    · exact Nat.succ_le_succ hheld
    · exact hheld

theorem Linked.follow (hw : w.Linked number) (i : FinderId) (feed : FeedId)
    (view : Option ViewId) : ∃ number', (w.follow i feed view).2.Linked number' := by
  rcases w.follow_cases i feed view with
    ⟨fault, -, heq | heq⟩ | ⟨f, fd, notes, hf, hretired, hlink, hfd, hopen, -, heq⟩
  · rw [heq]
    exact ⟨number, hw⟩
  · rw [heq]
    exact hw.exchange (a := .subscribe feed) trivial
  · rw [heq]
    exact ⟨_, (hw.withLink hf hretired hlink hfd hopen view).congr rfl rfl rfl⟩

/-- Links and couriers agree after every action that is possible. -/
theorem Linked.act (hw : w.Linked number) {a : Action α} (ha : w.Possible a) :
    ∃ number', (w.act a).Linked number' := by
  cases a with
  | openView | closeView => exact ⟨number, hw.congr rfl rfl rfl⟩
  | exchange a => exact hw.exchange ha
  | search q collection => exact ⟨number, hw.addFinder _⟩
  | track q matched start =>
    rw [World.act]
    split
    · exact ⟨number, hw.addFinder _⟩
    · exact ⟨number, hw⟩
  | next i =>
    refine ⟨number, hw.stepWith i fun {h a h'} hok ↦ ?_⟩
    obtain ⟨cursor, hcursor⟩ := h.exists_cursor_after_next
    rw [Hits.after, hok] at hcursor
    rw [show h' = _ from hcursor]
  | previous i =>
    refine ⟨number, hw.stepWith i fun {h a h'} hok ↦ ?_⟩
    obtain ⟨cursor, hcursor⟩ := h.exists_cursor_after_previous
    rw [Hits.after, hok] at hcursor
    rw [show h' = _ from hcursor]
  | apply i view c => exact ⟨number, hw.apply i view c⟩
  | follow i feed view => exact hw.follow i feed view
  | retire i => exact ⟨number, hw.retire i⟩
  | drop i => exact ⟨number, hw.drop i⟩
  | carry j => exact ⟨number, hw.carries (w.carries_carry j)⟩

end Actions

end World

end LiveFind
