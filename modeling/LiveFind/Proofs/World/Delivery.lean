import LiveFind.Proofs.Hits.Tracking
import LiveFind.Proofs.World.Feeds

/-!
# Delivery

A finder that follows a feed has, in the end, the hits it would have if every change published since
had been applied to it on the spot. On the way the hits are behind: `InStep` says by how much. The
changes that the hits have, followed by those that their subscription is still owed, are all that
was published before the feed was closed.

Only four kinds of steps touch this. A broadcast that starts adds a change to what is owed; the
courier of the finder takes the first of what is owed to the hits, or, when nothing is owed any more
and nothing can come, ends the link; and stepping through the hits moves the cursor. Everything else
happens to other mailboxes, couriers and finders.
-/

namespace LiveFind

namespace World

variable {α : Type} [BEq α] [Hashable α] [Findable α]

/-- The hits of the courier's finder have the changes that are done, and its subscription is owed
others. Once the courier has ended, its finder is free and nobody reads the mailbox. -/
structure InStep (w : World α) (feed : FeedId) (j : CourierId) (c : Courier) (h : Hits α)
    (done owed : List (Change α)) : Prop where
  courier : w.couriers[j]? = some c
  finder : ∃ f, w.finders[c.finder]? = some f ∧ (h.applyAll done).Alike f.hits ∧
    (c.stage = .ended → f.link = none)
  view : w.viewClosed c.view = false
  feedOf : w.exchange.feedOf c.mailbox = some feed
  owes : w.exchange.Owes feed (c.number, c.mailbox) owed
  stage : c.stage = .running ∨ c.stage = .ended ∧ w.exchange.isRead c.mailbox = false

variable {w : World α} {feed : FeedId} {j : CourierId} {c : Courier} {h : Hits α}
  {done owed : List (Change α)} {number : MailboxId → Nat}

/-! ### Steps that do not concern the courier -/

theorem InStep.congr (hs : w.InStep feed j c h done owed) {w' : World α}
    (hexchange : w'.exchange = w.exchange) (hcourier : w'.couriers[j]? = w.couriers[j]?)
    (hfinder : w'.finders[c.finder]? = w.finders[c.finder]?) (hviews : w'.views = w.views) :
    w'.InStep feed j c h done owed := by
  refine ⟨hcourier.trans hs.courier, ?_, ?_, ?_, ?_, ?_⟩
  · rw [hfinder]; exact hs.finder
  · have hview := hs.view
    rw [viewClosed] at hview ⊢
    rw [hviews, hview]
  · rw [hexchange]; exact hs.feedOf
  · rw [hexchange]; exact hs.owes
  · rw [hexchange]; exact hs.stage

/-- An action in the exchange matters by what it leaves the subscription owed. -/
theorem InStep.exchange (hs : w.InStep feed j c h done owed) {x : Exchange.Action α}
    {owed' : List (Change α)}
    (howes : (w.exchange.act x).Owes feed (c.number, c.mailbox) owed') :
    ({ w with exchange := w.exchange.act x } : World α).InStep feed j c h done owed' where
  courier := hs.courier
  finder := hs.finder
  view := hs.view
  feedOf := Exchange.feedOf_act x hs.feedOf
  owes := howes
  stage := hs.stage.imp_right fun ⟨hended, hread⟩ ↦
    ⟨hended, Exchange.isRead_act_eq_false x hs.feedOf hread⟩

theorem InStep.belongs (hs : w.InStep feed j c h done owed) (hw : w.Linked number) :
    w.exchange.Belongs number feed (c.number, c.mailbox) := by
  obtain ⟨⟨feed', hbelongs⟩, -⟩ := hw.mailbox hs.courier
  have hfeed := hbelongs.1
  rw [hs.feedOf, Option.some.injEq] at hfeed
  rw [hfeed]
  exact hbelongs

/-- What is done to other subscriptions, or quietly, leaves what is owed as it is. -/
theorem InStep.spared (hs : w.InStep feed j c h done owed) (hw : w.Linked number)
    {x : Exchange.Action α} (hspares : w.exchange.Spares feed (c.number, c.mailbox) x)
    (hquiet : x.Quiet) :
    ({ w with exchange := w.exchange.act x } : World α).InStep feed j c h done owed := by
  refine hs.exchange (hs.owes.act_of_not_advance hw.numbered (hs.belongs hw) hspares ?_ ?_)
  · cases x <;> trivial
  · rintro i rfl
    cases hquiet

/-- A courier at work that is not this one works for another finder. -/
theorem InStep.finder_ne (hs : w.InStep feed j c h done owed) (hw : w.Linked number)
    {j' : CourierId} {c' : Courier} (hc' : w.couriers[j']? = some c')
    (hrunning : c'.stage = .running) (hj : j' ≠ j) : c'.finder ≠ c.finder := by
  intro heq
  obtain ⟨f', feed', hf', -, hlink'⟩ := hw.running hc' hrunning
  rw [heq] at hf'
  rcases hs.stage with hstage | ⟨hstage, -⟩
  · obtain ⟨f, feed'', hf, -, hlink⟩ := hw.running hs.courier hstage
    rw [hf', Option.some.injEq] at hf
    rw [← hf, hlink', Option.some.injEq] at hlink
    exact hj (congrArg Link.courier hlink)
  · obtain ⟨f, hf, -, hfree⟩ := hs.finder
    rw [hf', Option.some.injEq] at hf
    rw [hf, hfree hstage] at hlink'
    cases hlink'

theorem InStep.mailbox_ne (hs : w.InStep feed j c h done owed) (hw : w.Linked number)
    {j' : CourierId} {c' : Courier} (hc' : w.couriers[j']? = some c') (hj : j' ≠ j) :
    c'.mailbox ≠ c.mailbox :=
  fun heq ↦ hj (hw.separate hc' hs.courier heq)

/-- The link of another finder may end. -/
theorem InStep.detach (hs : w.InStep feed j c h done owed) (hw : w.Linked number) {i : FinderId}
    {f : Finder α} {l : Link} (hf : w.finders[i]? = some f) (hl : f.link = some l)
    (hi : i ≠ c.finder) (g : Hits α → Hits α) : (w.detach i l g).InStep feed j c h done owed := by
  obtain ⟨c', hc', hfinder, -, hbelongs, -⟩ := hw.exists_courier hf hl
  have hj : l.courier ≠ j := by
    intro heq
    rw [heq, hs.courier, Option.some.injEq] at hc'
    exact hi (by rw [hc', hfinder])
  -- the two subscriptions have different numbers, since they have different mailboxes
  have hspares : w.exchange.Spares feed (c.number, c.mailbox) (.unsubscribe l.feed l.number) := by
    intro hfeed hnumber
    rw [hfeed, hnumber] at hbelongs
    have hmailbox := hw.numbered.eq_of_belongs hbelongs (hs.belongs hw)
    exact absurd hmailbox (hs.mailbox_ne hw hc' hj)
  have hunsubscribed := hs.spared hw hspares trivial
  refine (hunsubscribed.exchange (hunsubscribed.owes.release l.feed)).congr rfl ?_ ?_ rfl
  · exact List.getElem?_modify_ne _ _ hj
  · exact List.getElem?_modify_ne _ _ hi

/-- Another courier may give its mailbox back. -/
theorem InStep.putAway (hs : w.InStep feed j c h done owed) (hw : w.Linked number)
    {j' : CourierId} {c' : Courier} (hc' : w.couriers[j']? = some c') (hj : j' ≠ j) :
    (w.putAway j' c').InStep feed j c h done owed :=
  (hs.spared hw (x := .discard c'.mailbox) (hs.mailbox_ne hw hc' hj) trivial).congr rfl
    (List.getElem?_modify_ne _ _ hj) rfl rfl

theorem InStep.finish (hs : w.InStep feed j c h done owed) (hw : w.Linked number)
    {j' : CourierId} {c' : Courier} (hc' : w.couriers[j']? = some c')
    (hrunning : c'.stage = .running) (hj : j' ≠ j) :
    (w.finish j' c').InStep feed j c h done owed := by
  obtain ⟨f, feed', notes, hf, -, hl, heq⟩ := hw.finish_eq_detach hc' hrunning
  have hdetached := hs.detach hw hf hl (hs.finder_ne hw hc' hrunning hj) id
  have hc'' : (w.detach c'.finder ⟨feed', c'.number, j'⟩ id).couriers[j']? =
      some { c' with stage := .stopping } :=
    (Exchange.getElem?_modify_of_some hc' _ _).trans (by rw [if_pos rfl])
  have haway := hdetached.putAway (hw.detach hf hl id) hc'' hj
  rw [heq]
  exact haway.congr rfl rfl rfl rfl

theorem InStep.apply (hs : w.InStep feed j c h done owed) {i : FinderId} (hi : i ≠ c.finder)
    (view : Option ViewId) (change : Change α) :
    (w.apply i view change).2.InStep feed j c h done owed := by
  rw [World.apply]
  split
  · exact hs
  · exact hs.congr rfl rfl (List.getElem?_modify_ne _ _ hi) rfl

/-- Whatever another courier does concerns its own mailbox and its own finder. -/
theorem InStep.carries (hs : w.InStep feed j c h done owed) (hw : w.Linked number)
    {j' : CourierId} (hj : j' ≠ j) {w' : World α} (hcarries : w.Carries j' w') :
    w'.InStep feed j c h done owed := by
  have hreceived : ∀ {c' : Courier}, w.couriers[j']? = some c' →
      (w.withReceived c'.mailbox).InStep feed j c h done owed := fun hc' ↦
    hs.spared hw (x := .receive _) (hs.mailbox_ne hw hc' hj) trivial
  cases hcarries with
  | idle => exact hs
  | putAway hc' => exact hs.putAway hw hc' hj
  | finish hc' hrunning => exact hs.finish hw hc' hrunning hj
  | lose hc' hrunning => exact (hreceived hc').finish (hw.withReceived _) hc' hrunning hj
  | @refuse c' change _ hc' hrunning =>
    have hi := hs.finder_ne hw hc' hrunning hj
    have happlied := (hreceived hc').apply hi c'.view change
    refine happlied.finish ((hw.withReceived _).apply c'.finder c'.view change) ?_ hrunning hj
    rw [couriers_apply]
    exact hc'
  | bring hc' hrunning => exact (hreceived hc').apply (hs.finder_ne hw hc' hrunning hj) _ _

theorem InStep.retire (hs : w.InStep feed j c h done owed) (hw : w.Linked number) {i : FinderId}
    (hi : i ≠ c.finder) : (w.retire i).InStep feed j c h done owed := by
  cases hf : w.finders[i]? with
  | none => rw [World.retire, hf]; exact hs
  | some f =>
    cases hl : f.link with
    | none =>
      rw [World.retire, hf]
      dsimp only
      rw [hl]
      exact hs.congr rfl rfl (List.getElem?_modify_ne _ _ hi) rfl
    | some l =>
      obtain ⟨notes, heq⟩ := hw.retire_eq_detach hf hl
      rw [heq]
      exact (hs.detach hw hf hl hi Hits.retire).congr rfl rfl rfl rfl

/-- Another finder may follow this feed or another one. -/
theorem InStep.follow (hs : w.InStep feed j c h done owed) (hw : w.Linked number) {i : FinderId}
    (hi : i ≠ c.finder) (feed' : FeedId) (view : Option ViewId) :
    (w.follow i feed' view).2.InStep feed j c h done owed := by
  have hsubscribed := hs.spared hw (x := .subscribe feed') trivial trivial
  rcases w.follow_cases i feed' view with
    ⟨-, -, heq | heq⟩ | ⟨-, fd, notes, -, -, -, -, -, hsubscribe, heq⟩ <;> rw [heq]
  · exact hs
  · exact hsubscribed
  · refine (hsubscribed.exchange (hsubscribed.owes.hold feed')).congr ?_ ?_ ?_ rfl
    · show (w.exchange.withSubscription feed' fd).hold feed' = _
      rw [← hsubscribe]
      rfl
    · show (w.couriers ++ [_])[j]? = w.couriers[j]?
      rw [Exchange.getElem?_concat_of_some hs.courier, hs.courier]
    · exact List.getElem?_modify_ne _ _ hi

/-! ### The steps of the courier -/

theorem InStep.withHits (hs : w.InStep feed j c h done owed) {g : Finder α → Finder α}
    {done' : List (Change α)}
    (hg : ∀ f, w.finders[c.finder]? = some f → (h.applyAll done).Alike f.hits →
      (h.applyAll done').Alike (g f).hits ∧ (g f).link = f.link) :
    (w.updateFinder c.finder g).InStep feed j c h done' owed := by
  obtain ⟨f, hf, halike, hfree⟩ := hs.finder
  obtain ⟨halike', hlink⟩ := hg f hf halike
  refine ⟨hs.courier, ⟨g f, ?_, halike', fun hended ↦ hlink.trans (hfree hended)⟩, hs.view,
    hs.feedOf, hs.owes, hs.stage⟩
  exact (Exchange.getElem?_modify_of_some hf _ g).trans (by rw [if_pos rfl])

theorem InStep.apply_self (hs : w.InStep feed j c h done owed) (change : Change α) :
    (w.apply c.finder c.view change).2.InStep feed j c h (done ++ [change]) owed := by
  obtain ⟨f, hf, -⟩ := hs.finder
  rw [World.apply, hf, hs.view]
  refine (hs.withHits fun f' hf' halike ↦ ?_).congr rfl rfl rfl rfl
  rw [hf, Option.some.injEq] at hf'
  subst hf'
  rw [Hits.applyAll_concat]
  exact ⟨halike.apply false change, rfl⟩

/-- The courier takes the first of the changes that are owed to the hits. -/
theorem InStep.bring (hs : w.InStep feed j c h done owed) {change : Change α}
    {rest : List (Change α)} (hqueue : w.exchange.queued c.mailbox = change :: rest) :
    ∃ owed', owed = change :: owed' ∧
      ((w.withReceived c.mailbox).apply c.finder c.view change).2.InStep feed j c h
        (done ++ [change]) owed' := by
  obtain ⟨owed', rfl, howes⟩ := hs.owes.receive hqueue
  have hreceived : (w.withReceived c.mailbox).InStep feed j c h done owed' := hs.exchange howes
  exact ⟨owed', rfl, hreceived.apply_self change⟩

omit [Findable α] in
/-- Whoever follows a feed holds it. -/
theorem Linked.feedHeld (hw : w.Linked number) {i : FinderId} {f : Finder α} {l : Link}
    (hf : w.finders[i]? = some f) (hl : f.link = some l) {fd : Feed}
    (hfd : w.exchange.feeds[l.feed]? = some fd) : w.exchange.feedHeld l.feed = true := by
  have hfollowed : 0 < w.followers l.feed :=
    List.countP_pos_iff.2 ⟨f, List.mem_of_getElem? hf, by rw [hl]; exact beq_self_eq_true _⟩
  have hholders : 0 < fd.holders := Nat.lt_of_lt_of_le hfollowed (hw.held hfd)
  rw [Exchange.feedHeld, hfd, Option.any_some, decide_eq_true hholders, Bool.true_or]

/-- The courier is told that nothing more can come only when nothing is owed and the feed is closed.
Then it ends the link. -/
theorem InStep.ended (hs : w.InStep feed j c h done owed) (hw : w.Linked number)
    (hrunning : c.stage = .running) (hqueue : w.exchange.queued c.mailbox = [])
    (hconnected : w.exchange.connected c.mailbox = false) :
    owed = [] ∧ (w.finish j c).InStep feed j { c with stage := .ended } h done [] := by
  obtain ⟨f, feed', notes, hf, hfeed, hl, heq⟩ := hw.finish_eq_detach hs.courier hrunning
  rw [hs.feedOf, Option.some.injEq] at hfeed
  subst hfeed
  obtain ⟨fd, hfd, -⟩ := hw.numbered.lt_next hs.feedOf
  obtain ⟨hidle, hclosed⟩ := hs.owes.of_not_connected (hs.belongs hw) (hw.feedHeld hf hl hfd)
    hconnected ⟨fd, hfd⟩
  have howed : owed = [] := (hs.owes.eq_queued hidle).trans hqueue
  subst howed
  -- as the feed is closed, giving the subscription and the mailbox up changes nothing
  have hunsubscribed := hs.spared hw (x := .unsubscribe feed c.number) (fun _ _ ↦ hclosed) trivial
  have hreleased := hunsubscribed.exchange (hunsubscribed.owes.release feed)
  have hdiscarded := hreleased.exchange (hreleased.owes.discard
    (Exchange.isClosed_act (.release feed)
      (Exchange.isClosed_act (.unsubscribe feed c.number) hclosed)))
  obtain ⟨f', hf', halike, -⟩ := hs.finder
  refine ⟨rfl, ?_⟩
  rw [heq]
  refine ⟨?_, ⟨{ f' with link := none }, ?_, halike, fun _ ↦ rfl⟩, hs.view, hdiscarded.feedOf,
    hdiscarded.owes, .inr ⟨rfl, Exchange.isRead_discard⟩⟩
  · show ((w.couriers.modify j _).modify j _)[j]? = _
    rw [List.modify_modify_eq, Exchange.getElem?_modify_of_some hs.courier, if_pos rfl]
    rfl
  · exact (Exchange.getElem?_modify_of_some hf' _ _).trans (by rw [if_pos rfl]; rfl)

/-- A step of the courier itself keeps the changes in order, those that are done and those that are
still owed. -/
theorem InStep.carries_self (hs : w.InStep feed j c h done owed) (hw : w.Linked number)
    {w' : World α} (hcarries : w.Carries j w') :
    ∃ stage done' owed', w'.InStep feed j { c with stage } h done' owed' ∧
      done' ++ owed' = done ++ owed := by
  -- all that the step looks at is this courier
  have hsame : ∀ {c' : Courier}, w.couriers[j]? = some c' → c' = c := fun hc' ↦ by
    rw [hs.courier, Option.some.injEq] at hc'
    exact hc'.symm
  cases hcarries with
  | idle => exact ⟨c.stage, done, owed, hs, rfl⟩
  | putAway hc' hstopping =>
    -- only the end of the link from outside takes a courier out of service
    rw [hsame hc'] at hstopping
    rcases hs.stage with hstage | ⟨hstage, -⟩ <;> rw [hstopping] at hstage <;> cases hstage
  | finish hc' hrunning hqueue hconnected =>
    obtain rfl := hsame hc'
    obtain ⟨rfl, hended⟩ := hs.ended hw hrunning hqueue (hconnected feed hs.feedOf)
    exact ⟨.ended, done, [], hended, rfl⟩
  | lose hc' hrunning _ hgone =>
    -- a finder that follows a feed is not gone
    obtain rfl := hsame hc'
    obtain ⟨f, feed', hf, -, hl⟩ := hw.running hc' hrunning
    rw [hf, Option.any_some, hw.gone_eq_false hf hl] at hgone
    cases hgone
  | @refuse c' change _ hc' hrunning _ hdropped =>
    -- hits with a link are not retired, and the view is open, so they take the change
    obtain rfl := hsame hc'
    exact absurd hdropped (hw.apply_ne_dropped hc' hrunning hs.view change)
  | @bring c' change _ hc' _ hqueue =>
    obtain rfl := hsame hc'
    obtain ⟨owed', rfl, hbrought⟩ := hs.bring hqueue
    exact ⟨c'.stage, done ++ [change], owed', hbrought, by rw [List.append_assoc]; rfl⟩

/-! ### All steps -/

/-- The action leaves the hits of a finder to its courier: nobody else changes or retires them, and
the view that they are for stays open. -/
def Action.Leaves (finder : FinderId) (view : Option ViewId) : Action α → Prop
  | .closeView v => view ≠ some v
  | .apply i _ _ | .follow i _ _ | .retire i | .drop i => i ≠ finder
  | _ => True

omit [BEq α] [Hashable α] [Findable α] in
instance (finder : FinderId) (view : Option ViewId) :
    DecidablePred (Action.Leaves (α := α) finder view)
  | .closeView v => inferInstanceAs (Decidable (view ≠ some v))
  | .apply i .. | .follow i .. | .retire i | .drop i => inferInstanceAs (Decidable (i ≠ finder))
  | .openView | .exchange _ | .search .. | .track .. | .next _ | .previous _ | .carry _ =>
    .isTrue trivial

omit [Findable α] in
theorem viewClosed_openView (view : Option ViewId) :
    w.openView.2.viewClosed view = w.viewClosed view := by
  cases view with
  | none => rfl
  | some v =>
    show ((w.views ++ [false])[v]? == some true) = (w.views[v]? == some true)
    cases hv : w.views[v]? with
    | some closed => rw [Exchange.getElem?_concat_of_some hv]
    | none =>
      rw [List.getElem?_append_right (List.getElem?_eq_none_iff.1 hv), List.getElem?_singleton]
      split <;> rfl

omit [Findable α] in
theorem viewClosed_closeView {view : Option ViewId} {v : ViewId} (hv : view ≠ some v) :
    (w.closeView v).viewClosed view = w.viewClosed view := by
  cases view with
  | none => rfl
  | some v' =>
    have hne : v ≠ v' := fun heq ↦ hv (congrArg some heq.symm)
    show ((w.views.set v true)[v']? == some true) = (w.views[v']? == some true)
    rw [List.getElem?_set_ne hne]

/-- Stepping through any hits moves their cursor only. -/
theorem InStep.stepWith (hs : w.InStep feed j c h done owed)
    {step : Hits α → Except Fault (α × Hits α)} {m : Move α}
    (hm : ∀ h : Hits α, h.after m = (step h).toOption.elim h (·.2))
    (hcursor : ∀ h : Hits α, h.Alike (h.after m)) (i : FinderId) :
    (w.stepWith i step).2.InStep feed j c h done owed := by
  rw [World.stepWith]
  split
  · exact hs
  · rename_i f hf
    split
    · rename_i a hits hok
      by_cases hi : i = c.finder
      · subst hi
        refine hs.withHits fun f' hf' halike ↦ ?_
        have hmoved := hcursor f'.hits
        rw [hf, Option.some.injEq] at hf'
        subst hf'
        rw [hm, hok] at hmoved
        exact ⟨halike.trans hmoved, rfl⟩
      · exact hs.congr rfl rfl (List.getElem?_modify_ne _ _ hi) rfl
    · exact hs

/-- Who owns what they use leaves the mailbox and the subscription of the courier alone. -/
theorem InStep.spares (hs : w.InStep feed j c h done owed) (hw : w.Linked number)
    {x : Exchange.Action α} (hx : w.Owned (.exchange x)) :
    w.exchange.Spares feed (c.number, c.mailbox) x := by
  cases x with
  | receive m | discard m => exact fun heq ↦ hx c (List.mem_of_getElem? hs.courier) heq.symm
  | unsubscribe i n =>
    rintro rfl rfl
    rcases hs.stage with hrunning | ⟨-, hread⟩
    · -- the number is the one in the link, which nobody else gives up
      obtain ⟨f, feed', hf, hfeed, hl⟩ := hw.running hs.courier hrunning
      rw [hs.feedOf, Option.some.injEq] at hfeed
      exact absurd ⟨hfeed.symm, rfl⟩ (hx f (List.mem_of_getElem? hf) _ hl)
    · exact (hs.owes.unread hread).2
  | _ => trivial

theorem InStep.act_exchange (hs : w.InStep feed j c h done owed) (hw : w.Linked number)
    (hsolo : w.exchange.Solo feed) {x : Exchange.Action α} (hx : w.Orderly feed (.exchange x)) :
    (w.act (.exchange x)).InStep feed j c h done
      (owed ++ if w.exchange.isClosed feed then [] else (w.exchange.starts feed x).toList) := by
  obtain ⟨notes, heq⟩ := w.exists_act_exchange x
  have howes := hs.owes.act hw.numbered (hs.belongs hw) hsolo (hs.spares hw hx.1) hx.2
  rw [heq]
  exact (hs.exchange howes).congr rfl rfl rfl rfl

theorem InStep.act_of_ne (hs : w.InStep feed j c h done owed) (hw : w.Linked number)
    {a : Action α} (ha : ∀ x, a ≠ .exchange x) (hleaves : a.Leaves c.finder c.view) :
    ∃ stage done' owed', (w.act a).InStep feed j { c with stage } h done' owed' ∧
      done' ++ owed' = done ++ owed := by
  have hkeep : (w.act a).InStep feed j c h done owed → ∃ stage done' owed',
      (w.act a).InStep feed j { c with stage } h done' owed' ∧ done' ++ owed' = done ++ owed :=
    fun hs' ↦ ⟨c.stage, done, owed, hs', rfl⟩
  cases a with
  | openView => exact hkeep { hs with view := (viewClosed_openView _).trans hs.view }
  | closeView v => exact hkeep { hs with view := (viewClosed_closeView hleaves).trans hs.view }
  | exchange x => exact absurd rfl (ha x)
  | search q collection =>
    obtain ⟨f, hf, -⟩ := hs.finder
    exact hkeep (hs.congr rfl rfl ((Exchange.getElem?_concat_of_some hf _).trans hf.symm) rfl)
  | track q matched start =>
    refine hkeep ?_
    obtain ⟨f, hf, -⟩ := hs.finder
    rw [World.act]
    split
    · exact hs.congr rfl rfl ((Exchange.getElem?_concat_of_some hf _).trans hf.symm) rfl
    · exact hs
  | next i =>
    exact hkeep (hs.stepWith (m := .next) (fun _ ↦ rfl) Hits.exists_cursor_after_next i)
  | previous i =>
    exact hkeep (hs.stepWith (m := .previous) (fun _ ↦ rfl) Hits.exists_cursor_after_previous i)
  | apply i view change => exact hkeep (hs.apply hleaves view change)
  | follow i feed' view => exact hkeep (hs.follow hw hleaves feed' view)
  | retire i => exact hkeep (hs.retire hw hleaves)
  | drop i =>
    exact hkeep ((hs.retire hw hleaves).congr rfl rfl (List.getElem?_modify_ne _ _ hleaves) rfl)
  | carry j' =>
    by_cases hj : j' = j
    · subst hj
      exact hs.carries_self hw (w.carries_carry j')
    · exact hkeep (hs.carries hw hj (w.carries_carry j'))

/-- A step publishes a change to an open feed, which is then owed last, or keeps the changes as they
are and in order. -/
theorem InStep.act (hs : w.InStep feed j c h done owed) (hw : w.Linked number)
    (hsolo : w.exchange.Solo feed) {a : Action α} (ha : w.Orderly feed a)
    (hleaves : a.Leaves c.finder c.view) :
    ∃ stage done' owed', (w.act a).InStep feed j { c with stage } h done' owed' ∧
      done' ++ owed' = done ++ owed ++
        if w.exchange.isClosed feed then [] else (w.publishes feed a).toList := by
  rcases a.exchange_or with ⟨x, rfl⟩ | hne
  · exact ⟨c.stage, done, _, hs.act_exchange hw hsolo ha, by rw [List.append_assoc]; rfl⟩
  · have hnone : w.publishes feed a = none := by
      cases a with
      | exchange x => exact absurd rfl (hne x)
      | _ => rfl
    rw [hnone, Option.toList_none, ite_self, List.append_nil]
    exact hs.act_of_ne hw hne hleaves

/-- Over a run, what is published to the open feed comes to what is done and owed, in order. -/
theorem InStep.run (hs : w.InStep feed j c h done owed) (hw : w.Ordered feed)
    {actions : List (Action α)}
    (hactions : w.Obeys (fun w a ↦ w.Orderly feed a ∧ a.Leaves c.finder c.view) actions) :
    ∃ stage done' owed', (w.run actions).InStep feed j { c with stage } h done' owed' ∧
      done' ++ owed' = done ++ owed ++ w.publishedOpen feed actions := by
  -- the world stays ordered, so its invariants are there for every step
  induction actions generalizing w c done owed with
  | nil =>
    exact ⟨c.stage, done, owed, hs, by
      rw [publishedOpen, List.takeWhile_nil, published, ite_self, List.append_nil]⟩
  | cons a actions ih =>
    obtain ⟨⟨ha, hleaves⟩, hrest⟩ := hactions
    obtain ⟨number, hlinked⟩ := hw.linked
    obtain ⟨f, hf, -⟩ := hlinked.numbered.lt_next hs.feedOf
    obtain ⟨stage, done₁, owed₁, hs₁, heq₁⟩ := hs.act hlinked hw.solo ha hleaves
    obtain ⟨stage', done₂, owed₂, hs₂, heq₂⟩ := ih hs₁ (hw.act ha) hrest
    refine ⟨stage', done₂, owed₂, hs₂, ?_⟩
    rw [heq₂, heq₁, publishedOpen_cons hf, List.append_assoc]

/-! ### Delivery -/

/-- A new link begins with nothing done and nothing owed. -/
theorem Ordered.inStep_follow (hw : w.Ordered feed) {finder : FinderId} {f : Finder α}
    (hf : w.finders[finder]? = some f) {view : Option ViewId} (hopen : w.viewClosed view = false)
    (hok : (w.follow finder feed view).1 = .ok ()) :
    ∃ fd, w.exchange.isClosed feed = false ∧
      (w.act (.follow finder feed view)).InStep feed w.couriers.length
        { finder, mailbox := w.exchange.mailboxes.length, number := fd, view } f.hits [] [] := by
  obtain ⟨number, hlinked⟩ := hw.linked
  rcases w.follow_cases finder feed view with
    ⟨fault, herr, -⟩ | ⟨f', fd, notes, hf', -, -, hfd, hclosed, -, heq⟩
  · rw [hok] at herr
    cases herr
  · rw [hf, Option.some.injEq] at hf'
    subst hf'
    refine ⟨fd.nextNumber, (Exchange.isClosed_of_some hfd).trans hclosed, ?_⟩
    rw [World.act, heq]
    have howes := (hlinked.numbered.owes_withSubscription hfd).hold feed
    refine ⟨List.getElem?_concat_length,
      ⟨{ f with link := some ⟨feed, fd.nextNumber, w.couriers.length⟩ }, ?_, .rfl, fun h ↦ ?_⟩,
      hopen, ?_, howes, .inl rfl⟩
    · exact (Exchange.getElem?_modify_of_some hf finder _).trans (by rw [if_pos rfl])
    · cases h
    · exact (w.exchange.belongs_withSubscription number feed fd).1

/-- A finder follows a feed whose publisher waits for each broadcast, and its view stays open. At
every later time the hits are those that the finder had, after direct changes by a prefix of all
that was published since. Once no broadcast sends any more and the mailbox that the finder got is
empty, this is everything that was published before the feed was closed, whatever the room of the
mailboxes is, and in whatever order broadcasts, couriers and other finders take their steps. -/
theorem Ordered.hits_delivered (hw : w.Ordered feed) {finder : FinderId} {f : Finder α}
    (hf : w.finders[finder]? = some f) {view : Option ViewId} (hopen : w.viewClosed view = false)
    (hok : (w.follow finder feed view).1 = .ok ()) {actions : List (Action α)}
    (hactions : (w.act (.follow finder feed view)).Obeys
      (fun w a ↦ w.Orderly feed a ∧ a.Leaves finder view) actions) :
    let w₀ := w.act (.follow finder feed view)
    let w' := w₀.run actions
    ∃ f' applied, w'.finders[finder]? = some f' ∧ (f.hits.applyAll applied).Alike f'.hits ∧
      applied <+: w₀.published feed actions ∧
      ((∀ b ∈ w'.exchange.broadcasts, b.feed = feed → b.stage ≠ .sending) →
        w'.exchange.queued w.exchange.mailboxes.length = [] →
        applied = w₀.published feed (actions.takeWhile fun a ↦ !a.closes feed)) := by
  intro w₀ w'
  have hw₀ : w₀.Ordered feed := hw.act (a := .follow finder feed view) ⟨trivial, trivial⟩
  obtain ⟨n, hclosed, hstart⟩ := hw.inStep_follow hf hopen hok
  obtain ⟨stage, done, owed, hs, heq⟩ := hstart.run hw₀ hactions
  have hclosed₀ : w₀.exchange.isClosed feed = false :=
    (isClosed_act_of_not_closes rfl).trans hclosed
  have hall : done ++ owed = w₀.published feed (actions.takeWhile fun a ↦ !a.closes feed) := by
    rw [publishedOpen, hclosed₀, if_neg Bool.false_ne_true] at heq
    exact heq
  obtain ⟨f', hf', halike, -⟩ := hs.finder
  refine ⟨f', done, hf', halike, ?_, fun hsent hqueue ↦ ?_⟩
  · -- what is published before the close is a prefix of all that is published
    have happend := w₀.published_append feed (actions.takeWhile fun a ↦ !a.closes feed)
      (actions.dropWhile fun a ↦ !a.closes feed)
    rw [List.takeWhile_append_dropWhile, ← hall, List.append_assoc] at happend
    exact ⟨_, happend.symm⟩
  · obtain ⟨number, hlinked⟩ := (hw₀.run (hactions.imp fun _ _ h ↦ h.1)).linked
    have hidle : w'.exchange.Idle (n, w.exchange.mailboxes.length) := fun i b hb hstage hmem ↦
      hsent b (List.mem_of_getElem? hb)
        (hlinked.numbered.feed_eq_of_mem (hs.belongs hlinked) hb hmem) hstage
    have hnil : owed = [] := (hs.owes.eq_queued hidle).trans hqueue
    rw [← hall, hnil, List.append_nil]

/-- Two finders follow a feed with room for one change. The second broadcast finds the mailbox of
one of them full and waits until that finder is retired; then the feed is closed, and what is
published after that reaches nobody. The other finder, which had no hits, has the added item in the
end. -/
theorem hits_delivered_nodes :
    let q := Query.ofText .default "sort"
    let sort : Node := { id := "node:2", kind := "sort", label := "Sort rows" }
    let w := ({} : World Node).run
      [.exchange (.openFeed 1), .search q [], .search q [], .follow 1 0 none]
    let w₀ := w.act (.follow 0 0 none)
    let earlier : List (Action Node) :=
      [.exchange (.announce 0 .other), .exchange (.advance 0), .exchange (.advance 0),
        .exchange (.advance 0), .exchange (.advance 0), .exchange (.announce 0 (.added sort)),
        .exchange (.advance 1), .exchange (.advance 1), .next 0, .carry 1, .retire 1, .carry 0,
        .exchange (.advance 1), .exchange (.advance 1), .exchange (.advance 1),
        .exchange (.close 0), .exchange (.announce 0 (.removed sort)), .exchange (.advance 2),
        .exchange (.advance 2)]
    let actions := earlier ++ [.carry 1]
    let changes := w₀.published 0 (actions.takeWhile fun a ↦ !a.closes 0)
    changes.length = 2 ∧ ∃ f f', w.finders[0]? = some f ∧ f.hits.items = [] ∧
      (w₀.run actions).finders[0]? = some f' ∧ f'.hits.items.map (·.id) = ["node:2"] ∧
      (f.hits.applyAll changes).Alike f'.hits := by
  intro q sort w w₀ earlier actions changes
  have hw : w.Ordered 0 := Ordered.empty.run (by decide +kernel)
  have hf : w.finders[0]? = some { hits := Hits.ofSearch q [] } := rfl
  have hopen : w.viewClosed none = false := rfl
  have hok : (w.follow 0 0 none).1 = .ok () := by decide +kernel
  have hactions : w₀.Obeys (fun w a ↦ w.Orderly 0 a ∧ a.Leaves 0 none) actions := by
    decide +kernel
  have hmailbox : w.exchange.mailboxes.length = 1 := by decide +kernel
  have hcourier : (w₀.run earlier).couriers[1]? =
      some { finder := 0, mailbox := 1, number := 2, view := none } := by decide +kernel
  have hview : (w₀.run earlier).viewClosed none = false := by decide +kernel
  have hqueue : ((w₀.run earlier).exchange.queued 1).length = 1 := by decide +kernel
  have hsent : ∀ b ∈ ((w₀.run earlier).exchange.act (.receive 1)).broadcasts, b.feed = 0 →
      b.stage ≠ .sending := by decide +kernel
  have hread : (((w₀.run earlier).exchange.act (.receive 1)).queued 1).isEmpty = true := by
    decide +kernel
  have hlength : changes.length = 2 := by decide +kernel
  have hids : (changes.foldl Change.edit []).map (·.id) = ["node:2"] := by decide +kernel
  have haccepts : ∀ a ∈ changes.foldl Change.edit [], q.accepts a = true := by decide +kernel
  have hdistinct : (changes.foldl Change.edit []).Pairwise fun a b ↦ (a == b) = false := by
    decide +kernel
  have hw₀ : w₀.Ordered 0 := hw.act (a := .follow 0 0 none) ⟨trivial, trivial⟩
  -- sets go by the hashes of texts, which nothing computes here, so the last step is rewritten
  have hlast : (w₀.run actions).exchange = (w₀.run earlier).exchange.act (.receive 1) := by
    obtain ⟨number, hlinked⟩ :=
      (hw₀.run ((obeys_append.1 hactions).1.imp fun _ _ h ↦ h.1)).linked
    obtain ⟨change, hchange⟩ := List.length_eq_one_iff.1 hqueue
    rw [run_append, run_cons]
    generalize w₀.run earlier = w₁ at hlinked hcourier hview hchange ⊢
    rw [hlinked.carry_of_open hcourier rfl hview hchange]
    exact exchange_apply _ _ _ _
  -- what the run leads to is known now, and need not be computed again
  clear_value w actions
  obtain ⟨f', applied, hf', halike, -, hall⟩ := hw.hits_delivered hf hopen hok hactions
  rw [hlast, hmailbox] at hall
  rw [hall hsent (List.isEmpty_iff.1 hread)] at halike
  have hitems : ((Hits.ofSearch q []).applyAll changes).items = changes.foldl Change.edit [] := by
    rw [(Hits.sound_ofSearch q []).items_applyAll rfl rfl changes]
    exact Query.select_eq_self haccepts hdistinct
  obtain ⟨cursor, heq⟩ := halike
  exact ⟨hlength, _, f', hf, rfl, hf', by rw [heq, ← hids]; exact congrArg _ hitems, cursor, heq⟩

end World

end LiveFind
