import LiveFind.Proofs.Exchange.Ending
import LiveFind.Proofs.World.Delivery
import LiveFind.Proofs.World.Teardown

/-!
# Hits that change no more

Retired hits stay as they are: whatever changes wait for them, are on their way or come later, only
the cursor moves, and only by stepping through them (`exists_finder_run_of_retired`). In the same
way nothing comes through a view that is closed (`finders_apply_of_closed`,
`map_hits_carry_of_closed`).

Retiring takes the subscription of the hits from its feed and touches no other (`RetiresAlone`). But
it also lets the feed go. If nobody else holds the feed, there is nobody left who could publish a
change, so those who still subscribe to it read what they have and are told then that this was all.
-/

namespace LiveFind

namespace World

variable {α : Type} [BEq α] [Hashable α] {w : World α} {number : MailboxId → Nat} {i : FinderId}
  {f : Finder α}

/-! ### Retired hits -/

/-- The steps that an action takes through the hits of a finder. -/
def Action.stepsOf (i : FinderId) : Action α → List (Move α)
  | .next i' => if i' = i then [.next] else []
  | .previous i' => if i' = i then [.previous] else []
  | _ => []

omit [BEq α] [Hashable α] in
theorem Action.next_or_previous_of_mem_stepsOf {a : Action α} {m : Move α} (hm : m ∈ a.stepsOf i) :
    m = .next ∨ m = .previous := by
  cases a with
  | next i' =>
    rw [stepsOf] at hm
    split at hm
    · exact .inl (List.mem_singleton.1 hm)
    · cases hm
  | previous i' =>
    rw [stepsOf] at hm
    split at hm
    · exact .inr (List.mem_singleton.1 hm)
    · cases hm
  | _ => cases hm

theorem getElem?_modify_of_fix {β : Type} {l : List β} {j : Nat} {b : β} (hb : l[j]? = some b)
    {k : Nat} {g : β → β} (hg : k = j → g b = b) : (l.modify k g)[j]? = some b := by
  rw [Exchange.getElem?_modify_of_some hb]
  split
  · rw [hg ‹_›]
  · rfl

theorem modify_eq_self_of_fix {β : Type} {l : List β} {k : Nat} {g : β → β}
    (hg : ∀ b, l[k]? = some b → g b = b) : l.modify k g = l := by
  refine List.ext_getElem? fun j ↦ ?_
  cases hj : l[j]? with
  | none => rw [List.getElem?_modify, hj]; rfl
  | some b => exact getElem?_modify_of_fix hj fun hk ↦ hg b (hk ▸ hj)

/-- Retiring makes a finder free, and others stay as they are. -/
theorem finders_retire (w : World α) (i : FinderId) : (w.retire i).finders =
    w.finders.modify i fun f ↦ { f with hits := f.hits.retire, link := none } := by
  rw [retire]
  split
  · rename_i hf
    rw [List.modify_eq_self (List.getElem?_eq_none_iff.1 hf)]
  · rename_i f hf
    dsimp only
    split
    · rename_i hl
      exact Exchange.modify_congr hf (by rw [← hl])
    · exact List.modify_modify_eq ..

theorem views_retire (w : World α) (i : FinderId) : (w.retire i).views = w.views := by
  rw [retire]
  split
  · rfl
  · dsimp only
    split <;> rfl

/-- The end of a courier ends the link of its finder at most. -/
theorem exists_finders_finish (w : World α) (j : CourierId) (c : Courier) :
    (w.finish j c).finders = w.finders ∨
      (w.finish j c).finders = w.finders.modify c.finder fun f ↦ { f with link := none } := by
  rw [finish]
  split
  · exact .inl rfl
  · split
    · exact .inl rfl
    · split
      · exact .inr rfl
      · exact .inl rfl

variable [Findable α]

theorem finders_apply (w : World α) (i : FinderId) (view : Option ViewId) (c : Change α) :
    (w.apply i view c).2.finders =
      w.finders.modify i fun f ↦ { f with hits := (f.hits.apply (w.viewClosed view) c).2 } := by
  rw [apply]
  split
  · rename_i hf
    rw [List.modify_eq_self (List.getElem?_eq_none_iff.1 hf)]
  · exact Exchange.modify_congr ‹_› rfl

omit [Findable α] in
theorem getElem?_finders_stepWith (hf : w.finders[i]? = some f)
    {step : Hits α → Except Fault (α × Hits α)} (i' : FinderId) :
    (w.stepWith i' step).2.finders[i]? = some { f with
      hits := if i' = i then (step f.hits).toOption.elim f.hits (·.2) else f.hits } := by
  rw [stepWith]
  split
  · rename_i hnone
    rw [if_neg fun hi ↦ by rw [hi, hf] at hnone; cases hnone]
    exact hf
  · rename_i f' hf'
    by_cases hi : i' = i
    · rw [hi, hf, Option.some.injEq] at hf'
      subst hf'
      rw [if_pos hi]
      split <;> rename_i hstep <;> rw [hstep]
      · exact (Exchange.getElem?_modify_of_some hf i' _).trans (by rw [if_pos hi]; rfl)
      · exact hf
    · rw [if_neg hi]
      split
      · exact (Exchange.getElem?_modify_of_some hf i' _).trans (by rw [if_neg hi])
      · exact hf

/-- A courier has nothing to do with a retired finder without a link. -/
theorem getElem?_finders_carries (hf : w.finders[i]? = some f) (hretired : f.hits.retired = true)
    (hlink : f.link = none) {j : CourierId} {w' : World α} (h : w.Carries j w') :
    w'.finders[i]? = some f := by
  have hfinish : ∀ {w : World α} (c : Courier), w.finders[i]? = some f →
      (w.finish j c).finders[i]? = some f := fun {w} c hf ↦ by
    rcases w.exists_finders_finish j c with heq | heq <;> rw [heq]
    · exact hf
    · exact getElem?_modify_of_fix hf fun _ ↦ by rw [← hlink]
  have happly : ∀ (c : Courier) change,
      ((w.withReceived c.mailbox).apply c.finder c.view change).2.finders[i]? = some f :=
    fun c change ↦ by
      rw [finders_apply]
      refine getElem?_modify_of_fix hf fun _ ↦ ?_
      rw [Hits.apply_of_dropped (by rw [hretired, Bool.true_or])]
  cases h with
  | idle | putAway => exact hf
  | finish | lose => exact hfinish _ hf
  | @refuse c change => exact hfinish c (happly c change)
  | @bring c change => exact happly c change

/-- Retired hits are only stepped through. -/
theorem exists_finder_act_of_retired (hf : w.finders[i]? = some f)
    (hretired : f.hits.retired = true) (hlink : f.link = none) (a : Action α) :
    ∃ gone, (w.act a).finders[i]? = some { f with hits := f.hits.run (a.stepsOf i), gone } := by
  cases a with
  | openView | closeView => exact ⟨f.gone, hf⟩
  | exchange x =>
    obtain ⟨notes, heq⟩ := w.exists_act_exchange x
    rw [heq]
    exact ⟨f.gone, hf⟩
  | search q collection => exact ⟨f.gone, Exchange.getElem?_concat_of_some hf _⟩
  | track q matched start =>
    rw [World.act]
    split
    · exact ⟨f.gone, Exchange.getElem?_concat_of_some hf _⟩
    · exact ⟨f.gone, hf⟩
  | next i' | previous i' =>
    refine ⟨f.gone, (getElem?_finders_stepWith hf i').trans ?_⟩
    rw [Action.stepsOf]
    split <;> rfl
  | apply i' view c =>
    refine ⟨f.gone, ?_⟩
    rw [World.act, finders_apply]
    refine getElem?_modify_of_fix hf fun _ ↦ ?_
    rw [Hits.apply_of_dropped (by rw [hretired, Bool.true_or])]
  | follow i' feed view =>
    refine ⟨f.gone, ?_⟩
    rw [World.act]
    rcases w.follow_cases i' feed view with
      ⟨-, -, heq | heq⟩ | ⟨f', fd, notes, hf', hretired', -, -, -, -, heq⟩ <;> rw [heq]
    · exact hf
    · exact hf
    · refine getElem?_modify_of_fix hf fun hi ↦ ?_
      rw [hi, hf, Option.some.injEq] at hf'
      rw [← hf', hretired] at hretired'
      cases hretired'
  | retire i' =>
    refine ⟨f.gone, ?_⟩
    rw [World.act, finders_retire]
    exact getElem?_modify_of_fix hf fun _ ↦ by rw [Hits.retire_of_retired hretired, ← hlink]
  | drop i' =>
    have hfree : (w.retire i').finders[i]? = some f := by
      rw [finders_retire]
      exact getElem?_modify_of_fix hf fun _ ↦ by rw [Hits.retire_of_retired hretired, ← hlink]
    refine ⟨if i' = i then true else f.gone,
      (Exchange.getElem?_modify_of_some hfree i' _).trans ?_⟩
    split <;> rfl
  | carry j => exact ⟨f.gone, getElem?_finders_carries hf hretired hlink (w.carries_carry j)⟩

theorem exists_finder_run_of_retired (hf : w.finders[i]? = some f)
    (hretired : f.hits.retired = true) (hlink : f.link = none) (later : List (Action α)) :
    ∃ gone, (w.run later).finders[i]? =
      some { f with hits := f.hits.run (later.flatMap (·.stepsOf i)), gone } := by
  induction later generalizing w f with
  | nil => exact ⟨f.gone, hf⟩
  | cons a later ih =>
    obtain ⟨gone, hf'⟩ := exists_finder_act_of_retired hf hretired hlink a
    obtain ⟨gone', hf''⟩ := ih hf' (Hits.retired_run hretired _) hlink
    refine ⟨gone', hf''.trans ?_⟩
    rw [List.flatMap_cons, Hits.run_append]

/-! ### Closed views -/

omit [Findable α] in
theorem views_finish (w : World α) (j : CourierId) (c : Courier) :
    (w.finish j c).views = w.views := by
  rw [finish]
  split
  · rfl
  · split
    · rfl
    · split <;> rfl

theorem views_apply (w : World α) (i : FinderId) (view : Option ViewId) (c : Change α) :
    (w.apply i view c).2.views = w.views := by
  rw [apply]
  split <;> rfl

theorem views_carries {j : CourierId} {w' : World α} (h : w.Carries j w') :
    w'.views = w.views := by
  cases h with
  | idle | putAway => rfl
  | finish | lose => exact views_finish _ _ _
  | refuse => exact (views_finish _ _ _).trans (views_apply _ _ _ _)
  | bring => exact views_apply _ _ _ _

/-- A view that is closed stays so. -/
theorem viewClosed_act {view : Option ViewId} (h : w.viewClosed view = true) (a : Action α) :
    (w.act a).viewClosed view = true := by
  have hkeep : ∀ {w' : World α}, w'.views = w.views → w'.viewClosed view = true := fun hviews ↦ by
    rw [viewClosed, hviews]
    exact h
  cases a with
  | openView => exact (viewClosed_openView view).trans h
  | closeView v =>
    by_cases hv : view = some v
    · subst hv
      obtain ⟨hlt, -⟩ := List.getElem?_eq_some_iff.1 (beq_iff_eq.1 h)
      show ((w.views.set v true)[v]? == some true) = true
      rw [List.getElem?_set_self hlt]
      rfl
    · exact (viewClosed_closeView hv).trans h
  | exchange x =>
    obtain ⟨notes, heq⟩ := w.exists_act_exchange x
    exact hkeep (by rw [heq])
  | search => exact hkeep rfl
  | track q matched start =>
    rw [World.act]
    split <;> exact hkeep rfl
  | next i | previous i =>
    rw [World.act, World.stepWith]
    split
    · exact h
    · split <;> exact hkeep rfl
  | apply i view' c => exact hkeep (views_apply w i view' c)
  | follow i feed view' =>
    rw [World.act]
    rcases w.follow_cases i feed view' with
      ⟨-, -, heq | heq⟩ | ⟨-, f, notes, -, -, -, -, -, -, heq⟩ <;> rw [heq] <;> exact hkeep rfl
  | retire i => exact hkeep (views_retire w i)
  | drop i => exact hkeep (views_retire w i)
  | carry j => exact hkeep (views_carries (w.carries_carry j))

theorem viewClosed_run {view : Option ViewId} (h : w.viewClosed view = true)
    (later : List (Action α)) : (w.run later).viewClosed view = true := by
  induction later generalizing w with
  | nil => exact h
  | cons a later ih => exact ih (viewClosed_act h a)

/-- Nothing comes to any hits through a closed view. -/
theorem finders_apply_of_closed {view : Option ViewId} (h : w.viewClosed view = true)
    (i : FinderId) (c : Change α) : (w.apply i view c).2.finders = w.finders := by
  rw [finders_apply]
  refine modify_eq_self_of_fix fun f _ ↦ ?_
  rw [Hits.apply_of_dropped (by rw [h, Bool.or_true])]

omit [Findable α] in
theorem map_hits_finish (w : World α) (j : CourierId) (c : Courier) :
    (w.finish j c).finders.map (·.hits) = w.finders.map (·.hits) := by
  rcases w.exists_finders_finish j c with heq | heq <;> rw [heq]
  refine List.ext_getElem? fun k ↦ ?_
  rw [List.getElem?_map, List.getElem?_map, List.getElem?_modify]
  cases w.finders[k]? with
  | none => rfl
  | some f => by_cases hk : c.finder = k <;> simp [hk]

/-- Whatever a courier does for a closed view, all hits stay as they are. -/
theorem map_hits_carry_of_closed {j : CourierId} {c : Courier} (hc : w.couriers[j]? = some c)
    (h : w.viewClosed c.view = true) :
    (w.carry j).2.finders.map (·.hits) = w.finders.map (·.hits) := by
  have hsame : ∀ {c'}, w.couriers[j]? = some c' → c' = c := fun hc' ↦
    Option.some.inj (hc'.symm.trans hc)
  have happly : ∀ change, ((w.withReceived c.mailbox).apply c.finder c.view change).2.finders =
      w.finders := finders_apply_of_closed (w := w.withReceived c.mailbox) h c.finder
  have hcarries := w.carries_carry j
  generalize (w.carry j).2 = w' at hcarries ⊢
  cases hcarries with
  | idle | putAway => rfl
  | finish => exact map_hits_finish _ _ _
  | lose => exact map_hits_finish (w.withReceived _) _ _
  | @refuse c' change _ hc' =>
    obtain rfl := hsame hc'
    rw [map_hits_finish, happly]
  | @bring c' change _ hc' =>
    obtain rfl := hsame hc'
    rw [happly]

/-! ### What retiring touches -/

/-- The finder follows the feed by this subscription. -/
def FollowsBy (w : World α) (f : Finder α) (feed : FeedId) (s : Nat × MailboxId) : Prop :=
  ∃ l c, f.link = some l ∧ w.couriers[l.courier]? = some c ∧ l.feed = feed ∧
    s = (l.number, c.mailbox)

/-- Retiring the hits of a finder takes its link, with the courier and the subscription, and leaves
all other finders, couriers and subscriptions as they are. Only a feed that nobody holds any more
has no way left to send. -/
structure RetiresAlone (w : World α) (i : FinderId) (f : Finder α) : Prop where
  finder : (w.retire i).finders[i]? = some { f with hits := f.hits.retire, link := none }
  finders : ∀ k, k ≠ i → (w.retire i).finders[k]? = w.finders[k]?
  couriers : ∀ j, (∀ l, f.link = some l → l.courier ≠ j) →
    (w.retire i).couriers[j]? = w.couriers[j]?
  views : (w.retire i).views = w.views
  mailboxes : (w.retire i).exchange.mailboxes = w.exchange.mailboxes
  broadcasts : (w.retire i).exchange.broadcasts = w.exchange.broadcasts
  feeds : ∀ {feed : FeedId} {fd : Feed}, w.exchange.feeds[feed]? = some fd →
    ∃ subscribers, (w.retire i).exchange.feeds[feed]? = some { fd with
      subscribers, holders := fd.holders - if f.link.any (·.feed == feed) then 1 else 0 }
  subscribers : ∀ {feed s}, s ∈ (w.retire i).exchange.subscribersOf feed ↔
    s ∈ w.exchange.subscribersOf feed ∧ ¬w.FollowsBy f feed s
  connected : ∀ {m feed}, w.exchange.feedOf m = some feed → (∀ n, ¬w.FollowsBy f feed (n, m)) →
    ((w.retire i).exchange.connected m = true ↔
      w.exchange.connected m = true ∧ (w.retire i).exchange.feedHeld feed = true)
  followers : ∀ {k f' l c}, k ≠ i → w.finders[k]? = some f' → f'.link = some l →
    w.couriers[l.courier]? = some c →
      (w.retire i).exchange.connected c.mailbox = w.exchange.connected c.mailbox

section Retire

omit [Findable α]

/-- Without a link nobody notices but the finder. -/
theorem exists_retire_of_none (hf : w.finders[i]? = some f) (hl : f.link = none) :
    ∃ finders, w.retire i = { w with finders } := by
  rw [retire, hf]
  dsimp only
  rw [hl]
  exact ⟨_, rfl⟩

/-- The feed loses the subscription of the finder, and no other. -/
theorem Linked.mem_subscribersOf_retire_iff (hw : w.Linked number) (hf : w.finders[i]? = some f)
    {feed : FeedId} {s : Nat × MailboxId} : s ∈ (w.retire i).exchange.subscribersOf feed ↔
      s ∈ w.exchange.subscribersOf feed ∧ ¬w.FollowsBy f feed s := by
  cases hl : f.link with
  | none =>
    obtain ⟨finders, heq⟩ := exists_retire_of_none hf hl
    rw [heq]
    refine (and_iff_left ?_).symm
    rintro ⟨l, c, hl', -⟩
    rw [hl] at hl'
    cases hl'
  | some l =>
    obtain ⟨c, hc, -, -, hbelongs, -⟩ := hw.exists_courier hf hl
    obtain ⟨notes, heq⟩ := hw.retire_eq_detach hf hl
    rw [heq]
    constructor
    · refine fun hmem ↦ ⟨?_, ?_⟩
      · refine Exchange.mem_subscribersOf_of_updateFeed
          (Exchange.mem_subscribersOf_of_updateFeed hmem fun _ ↦ id) fun _ h ↦ ?_
        exact (List.mem_filter.1 h).1
      · rintro ⟨l', c', hl', hc', rfl, rfl⟩
        rw [hl, Option.some.injEq] at hl'
        subst hl'
        exact hw.not_mem_subscribersOf_detach hf hl hc' Hits.retire l.feed l.number hmem
    · rintro ⟨hmem, hnot⟩
      refine Exchange.mem_subscribersOf_updateFeed_of_mem
        (Exchange.mem_subscribersOf_updateFeed_of_mem hmem fun fd hfeed h ↦
          List.mem_filter.2 ⟨h, bne_iff_ne.2 fun hnumber ↦ hnot ?_⟩) fun _ _ ↦ id
      -- the number is that of one mailbox only
      have hs := (hw.numbered.subscribersOf feed).2 s hmem
      rw [hfeed, ← hnumber] at hbelongs
      exact ⟨l, c, hl, hc, hfeed, Prod.ext hnumber (hw.numbered.eq_of_belongs hs hbelongs)⟩

theorem Linked.exists_feed_retire (hw : w.Linked number) (hf : w.finders[i]? = some f)
    {feed : FeedId} {fd : Feed} (hfd : w.exchange.feeds[feed]? = some fd) :
    ∃ subscribers, (w.retire i).exchange.feeds[feed]? = some { fd with
      subscribers, holders := fd.holders - if f.link.any (·.feed == feed) then 1 else 0 } := by
  cases hl : f.link with
  | none =>
    obtain ⟨finders, heq⟩ := exists_retire_of_none hf hl
    rw [heq]
    exact ⟨fd.subscribers, hfd⟩
  | some l =>
    obtain ⟨notes, heq⟩ := hw.retire_eq_detach hf hl
    rw [heq, Option.any_some]
    refine ⟨if l.feed = feed then fd.subscribers.filter (·.1 != l.number) else fd.subscribers,
      (Exchange.getElem?_modify_of_some
        (Exchange.getElem?_modify_of_some hfd l.feed _) l.feed _).trans ?_⟩
    by_cases hfeed : l.feed = feed <;> simp [hfeed]

/-- Neither the mailboxes nor the broadcasts notice. -/
theorem Linked.mailboxes_retire (hw : w.Linked number) (hf : w.finders[i]? = some f) :
    (w.retire i).exchange.mailboxes = w.exchange.mailboxes ∧
      (w.retire i).exchange.broadcasts = w.exchange.broadcasts := by
  cases hl : f.link with
  | none =>
    obtain ⟨finders, heq⟩ := exists_retire_of_none hf hl
    rw [heq]
    exact ⟨rfl, rfl⟩
  | some l =>
    obtain ⟨notes, heq⟩ := hw.retire_eq_detach hf hl
    rw [heq]
    exact ⟨rfl, rfl⟩

/-- Who could still send to a mailbox still can, as long as somebody holds the feed. -/
theorem Linked.connected_retire (hw : w.Linked number) (hf : w.finders[i]? = some f)
    {m : MailboxId} {feed : FeedId} (hm : w.exchange.feedOf m = some feed)
    (hother : ∀ n, ¬w.FollowsBy f feed (n, m)) :
    (w.retire i).exchange.connected m = true ↔
      w.exchange.connected m = true ∧ (w.retire i).exchange.feedHeld feed = true := by
  obtain ⟨hmailboxes, hbroadcasts⟩ := hw.mailboxes_retire hf
  have hm' : (w.retire i).exchange.feedOf m = some feed := by
    rw [Exchange.feedOf, hmailboxes]
    exact hm
  -- a broadcast that is to serve the mailbox holds the feed
  have hsent : ∀ {n b}, b ∈ w.exchange.broadcasts → b.running = true → (n, m) ∈ b.targets →
      (w.retire i).exchange.feedHeld feed = true := by
    intro n b hb hrunning hmem
    obtain ⟨k, hk⟩ := List.mem_iff_getElem?.1 hb
    have hfeed := ((hw.numbered.targets hk).2 _ hmem).1
    rw [hm, Option.some.injEq] at hfeed
    refine Bool.or_eq_true_iff.2 (.inr (List.any_eq_true.2 ⟨b, hbroadcasts ▸ hb, ?_⟩))
    rw [hrunning, hfeed, beq_self_eq_true]
    rfl
  have hheld : (w.retire i).exchange.feedHeld feed = true → w.exchange.feedHeld feed = true := by
    intro hheld
    rcases Bool.or_eq_true_iff.1 hheld with hheld | hheld
    · refine Bool.or_eq_true_iff.2 (.inl ?_)
      obtain ⟨fd, hfd, -⟩ := hw.numbered.lt_next hm
      obtain ⟨subscribers, hfd'⟩ := hw.exists_feed_retire hf hfd
      rw [hfd', Option.any_some] at hheld
      rw [hfd, Option.any_some]
      exact decide_eq_true (Nat.lt_of_lt_of_le (of_decide_eq_true hheld) (Nat.sub_le _ _))
    · exact Bool.or_eq_true_iff.2 (.inr (hbroadcasts ▸ hheld))
  rw [Exchange.connected_iff hm, Exchange.connected_iff hm', hbroadcasts]
  constructor
  · rintro (⟨hheld', n, hmem⟩ | ⟨b, hb, hrunning, n, hmem⟩)
    · exact ⟨.inl ⟨hheld hheld', n, ((hw.mem_subscribersOf_retire_iff hf).1 hmem).1⟩, hheld'⟩
    · exact ⟨.inr ⟨b, hb, hrunning, n, hmem⟩, hsent hb hrunning hmem⟩
  · rintro ⟨⟨-, n, hmem⟩ | ⟨b, hb, hrunning, n, hmem⟩, hheld'⟩
    · exact .inl ⟨hheld', n, (hw.mem_subscribersOf_retire_iff hf).2 ⟨hmem, hother n⟩⟩
    · exact .inr ⟨b, hb, hrunning, n, hmem⟩

theorem Linked.retiresAlone (hw : w.Linked number) (hf : w.finders[i]? = some f) :
    w.RetiresAlone i f where
  finder := by
    rw [finders_retire]
    exact (Exchange.getElem?_modify_of_some hf i _).trans (by rw [if_pos rfl])
  finders k hk := by
    rw [finders_retire, List.getElem?_modify_ne _ _ hk.symm]
  couriers j hj := by
    cases hl : f.link with
    | none =>
      obtain ⟨finders, heq⟩ := exists_retire_of_none hf hl
      rw [heq]
    | some l =>
      obtain ⟨notes, heq⟩ := hw.retire_eq_detach hf hl
      rw [heq]
      exact List.getElem?_modify_ne _ _ (hj l hl)
  views := views_retire w i
  mailboxes := (hw.mailboxes_retire hf).1
  broadcasts := (hw.mailboxes_retire hf).2
  feeds := hw.exists_feed_retire hf
  subscribers := hw.mem_subscribersOf_retire_iff hf
  connected := hw.connected_retire hf
  followers {k f' l c} hk hf' hl hc := by
    obtain ⟨c₀, hc₀, hfinder, -, ⟨hm, -⟩, -⟩ := hw.exists_courier hf' hl
    rw [hc, Option.some.injEq] at hc₀
    subst hc₀
    refine Bool.eq_iff_iff.2 ((hw.connected_retire hf hm ?_).trans (and_iff_left ?_))
    · -- the mailboxes of two couriers are not the same
      rintro n ⟨l', c', hl', hc', -, heq⟩
      have hj := hw.separate hc hc' (Prod.mk.inj heq).2
      obtain ⟨c₁, hc₁, hfinder', -⟩ := hw.exists_courier hf hl'
      rw [← hj, hc, Option.some.injEq] at hc₁
      exact hk (hfinder.symm.trans ((congrArg _ hc₁).trans hfinder'))
    · -- whoever follows the feed still holds it
      have hf'' : (w.retire i).finders[k]? = some f' := by
        rw [finders_retire, List.getElem?_modify_ne _ _ hk.symm, hf']
      obtain ⟨fd, hfd, -⟩ := hw.numbered.lt_next hm
      obtain ⟨subscribers, hfd'⟩ := hw.exists_feed_retire hf hfd
      exact (hw.retire i).feedHeld hf'' hl hfd'

/-- Retired hits cannot follow a feed, and retiring them again changes nothing at all. -/
theorem follow_retire_of_retired (hf : w.finders[i]? = some f) (hretired : f.hits.retired = true)
    (hlink : f.link = none) : (∀ feed view, w.follow i feed view = (.error .retired, w)) ∧
      w.retire i = w := by
  refine ⟨fun feed view ↦ ?_, ?_⟩
  · rw [follow, hf]
    dsimp only
    rw [if_pos hretired]
  · have hsame : (w.retire i).finders = w.finders := by
      rw [finders_retire]
      refine modify_eq_self_of_fix fun f' hf' ↦ ?_
      rw [hf, Option.some.injEq] at hf'
      rw [← hf', Hits.retire_of_retired hretired, ← hlink]
    obtain ⟨finders, heq⟩ := exists_retire_of_none hf hlink
    rw [heq] at hsame ⊢
    rw [show finders = w.finders from hsame]

end Retire

/-! ### Every run -/

variable [EquivBEq α] [LawfulHashable α]

/-- Once hits are retired, no later action changes them, whatever changes are on their way: only
their cursor moves, by stepping through them, which goes on to work. They never follow a feed again,
and retiring them again changes nothing. Retiring them touches no other finder, courier or
subscription, but for the hold that the finder had on the feed. And once a view is closed, no change
for it, by a courier or directly, touches any hits. -/
theorem frozen {actions : List (Action α)} (h : ({} : World α).Obeys Possible actions)
    (later : List (Action α)) :
    let w := ({} : World α).run actions
    let w' := w.run later
    (∀ i f, w.finders[i]? = some f → f.hits.retired = true →
      ∃ f', w'.finders[i]? = some f' ∧ f'.hits = f.hits.run (later.flatMap (·.stepsOf i)) ∧
        f.hits.Alike f'.hits ∧ f'.hits.retired = true ∧ f'.link = none ∧
        (f'.hits.items ≠ [] →
          (∃ a h, f'.hits.next = .ok (a, h)) ∧ ∃ a h, f'.hits.previous = .ok (a, h)) ∧
        (∀ feed view, w'.follow i feed view = (.error .retired, w')) ∧ w'.retire i = w') ∧
    (∀ i f, w.finders[i]? = some f → w.RetiresAlone i f) ∧
    ∀ view, w.viewClosed view = true → w'.viewClosed view = true ∧
      (∀ i c, (w'.apply i view c).2.finders = w'.finders) ∧
      ∀ j c, w'.couriers[j]? = some c → c.view = view →
        (w'.carry j).2.finders.map (·.hits) = w'.finders.map (·.hits) := by
  intro w w'
  obtain ⟨number, hw⟩ := exists_linked_run (linked_empty fun _ ↦ 0) h
  refine ⟨fun i f hf hretired ↦ ?_, fun i f hf ↦ hw.retiresAlone hf, fun view hclosed ↦ ?_⟩
  · have hlink := hw.link_eq_none hf hretired
    obtain ⟨gone, hf'⟩ := exists_finder_run_of_retired hf hretired hlink later
    have hretired' := Hits.retired_run hretired (later.flatMap (·.stepsOf i))
    obtain ⟨hfollow, hretire⟩ := follow_retire_of_retired hf' hretired' hlink
    have hsound : (f.hits.run (later.flatMap (·.stepsOf i))).Sound :=
      (Reachable.hits_reachable ((Reachable.empty.run actions).run later) _
        (List.mem_of_getElem? hf')).sound
    refine ⟨_, hf', rfl, f.hits.alike_run_of_steps fun m hm ↦ ?_, hretired', hlink,
      fun hitems ↦ ⟨?_, ?_⟩, hfollow, hretire⟩
    · obtain ⟨a, -, hm⟩ := List.mem_flatMap.1 hm
      exact Action.next_or_previous_of_mem_stepsOf hm
    · rcases hsound.next_cases with ⟨hnil, -⟩ | ⟨k, hk, -, hok⟩
      · exact absurd hnil hitems
      · exact ⟨_, _, hok⟩
    · rcases hsound.previous_cases with ⟨hnil, -⟩ | ⟨k, hk, -, hok⟩
      · exact absurd hnil hitems
      · exact ⟨_, _, hok⟩
  · have hclosed' := viewClosed_run hclosed later
    refine ⟨hclosed', finders_apply_of_closed hclosed', fun j c hc hview ↦ ?_⟩
    exact map_hits_carry_of_closed hc (hview ▸ hclosed')

/-- Two finders follow a feed, one of them for a view that is closed. The other one is retired while
a broadcast is on its way that has served it and is to serve the first one next. -/
theorem frozen_nodes :
    let q := Query.ofText .default "filter"
    let row : Node := { id := "node:1", kind := "filter", label := "Row" }
    let actions : List (Action Node) :=
      [.exchange (.openFeed 1), .openView, .search q [row], .search q [row], .follow 0 0 none,
        .follow 1 0 (some 0), .closeView 0, .exchange (.announce 0 (.removed row)),
        .exchange (.advance 0), .exchange (.advance 0), .retire 0]
    let later : List (Action Node) :=
      [.apply 0 none (.removed row), .exchange (.advance 0), .carry 0, .carry 1]
    let w := ({} : World Node).run actions
    let w' := w.run later
    (w.exchange.queued 0).length = 1 ∧ w.linkOf 1 = some ⟨0, 2, 1⟩ ∧ w'.linkOf 1 = none ∧
      (∃ f f', w.finders[0]? = some f ∧ w'.finders[0]? = some f' ∧ f.hits.Alike f'.hits) ∧
      w'.retire 0 = w' ∧ (w'.apply 1 (some 0) (.removed row)).2.finders = w'.finders := by
  intro q row actions later w w'
  have hactions : ({} : World Node).Obeys Possible actions := by decide +kernel
  have hretired : (w.finders[0]?).map (·.hits.retired) = some true := by decide +kernel
  have hclosed : w.viewClosed (some 0) = true := by decide +kernel
  have hqueued : (w.exchange.queued 0).length = 1 := by decide +kernel
  have hlinks : w.linkOf 1 = some ⟨0, 2, 1⟩ ∧ w'.linkOf 1 = none := by decide +kernel
  obtain ⟨hstays, -, hviews⟩ := frozen hactions later
  -- what the run leads to is known now, and need not be computed again
  clear_value actions later
  obtain ⟨f, hf, hretired⟩ := Option.map_eq_some_iff.1 hretired
  obtain ⟨f', hf', -, halike, -, -, -, -, hretire⟩ := hstays 0 f hf hretired
  exact ⟨hqueued, hlinks.1, hlinks.2, ⟨f, f', hf, hf', halike⟩, hretire,
    (hviews _ hclosed).2.1 1 _⟩

/-- The finder that is retired is the last to hold the feed. A subscription that is not its own,
and could get changes before, is at its end then. -/
theorem exists_ended_by_retire :
    let actions : List (Action Node) :=
      [.exchange (.openFeed 1), .exchange (.subscribe 0), .search (.ofText .default "filter") [],
        .follow 0 0 none, .exchange (.release 0)]
    let w := ({} : World Node).run actions
    ({} : World Node).Obeys Possible actions ∧ (∀ c ∈ w.couriers, c.mailbox ≠ 0) ∧
      (w.exchange.receive 0).1 = .empty ∧ ((w.act (.retire 0)).exchange.receive 0).1 = .ended := by
  intro actions w
  have hactions : ({} : World Node).Obeys Possible actions := by decide +kernel
  have hother : ∀ c ∈ w.couriers, c.mailbox ≠ 0 := by decide +kernel
  have hfeed : w.exchange.feedOf 0 = some 0 ∧ (w.act (.retire 0)).exchange.feedOf 0 = some 0 := by
    decide +kernel
  have hqueued : (w.exchange.queued 0).length = 0 ∧
      ((w.act (.retire 0)).exchange.queued 0).length = 0 := by decide +kernel
  have hconnected : w.exchange.connected 0 = true ∧
      (w.act (.retire 0)).exchange.connected 0 = false := by decide +kernel
  have hbefore := Exchange.receive_of_queued_eq_nil hfeed.1 (List.length_eq_zero_iff.1 hqueued.1)
  have hafter := Exchange.receive_of_queued_eq_nil hfeed.2 (List.length_eq_zero_iff.1 hqueued.2)
  rw [hconnected.1, if_pos rfl] at hbefore
  rw [hconnected.2, if_neg Bool.false_ne_true] at hafter
  exact ⟨hactions, hother, hbefore, hafter⟩

end World

end LiveFind
