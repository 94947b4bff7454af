import LiveFind.Proofs.Exchange.Pending

/-!
# The history of an exchange

A mailbox holds what has not been read yet, and a broadcast what it is still to do. What they had to
do with before is gone from the exchange, so it is noted beside it, action by action (`noted`).
What has come into a mailbox (`arrivals`) is the first of these.

Nothing but a step of a broadcast puts anything into a mailbox (`queued_act_suffix_of_ne`), and it
puts it behind what is there, if there is room (`queued_advance_cases`). So a mailbox never holds
more than its feed provides for (`Bounded.act`).
-/

namespace LiveFind

namespace Exchange

variable {α : Type}

/-! ### Runs -/

/-- The exchange after all actions of a run. -/
def run (x : Exchange α) (actions : List (Action α)) : Exchange α :=
  actions.foldl act x

@[simp]
theorem run_nil (x : Exchange α) : x.run [] = x :=
  rfl

@[simp]
theorem run_cons (x : Exchange α) (a : Action α) (actions : List (Action α)) :
    x.run (a :: actions) = (x.act a).run actions :=
  rfl

theorem run_append (x : Exchange α) (actions actions' : List (Action α)) :
    x.run (actions ++ actions') = (x.run actions).run actions' :=
  List.foldl_append

theorem run_concat (x : Exchange α) (actions : List (Action α)) (a : Action α) :
    x.run (actions ++ [a]) = (x.run actions).act a :=
  x.run_append actions [a]

theorem feedOf_run {x : Exchange α} {m : MailboxId} {feed : FeedId}
    (h : x.feedOf m = some feed) (actions : List (Action α)) :
    (x.run actions).feedOf m = some feed := by
  induction actions generalizing x with
  | nil => exact h
  | cons a actions ih => exact ih (feedOf_act a h)

theorem Numbered.run {x : Exchange α} {number : MailboxId → Nat} (hx : x.Numbered number)
    (actions : List (Action α)) : ∃ number', (x.run actions).Numbered number' := by
  induction actions generalizing x number with
  | nil => exact ⟨number, hx⟩
  | cons a actions ih =>
    obtain ⟨number', hx', -⟩ := hx.act a
    exact ih hx'

theorem exists_numbered_run (actions : List (Action α)) :
    ∃ number, (({} : Exchange α).run actions).Numbered number :=
  (numbered_empty fun _ ↦ 0).run actions

/-- What is noted at the actions of a run, one after the other. -/
def noted {β : Type} (note : Exchange α → Action α → List β) (x : Exchange α) :
    List (Action α) → List β
  | [] => []
  | a :: actions => note x a ++ noted note (x.act a) actions

section Noted

variable {β : Type} (note : Exchange α → Action α → List β)

theorem noted_append (x : Exchange α) (actions actions' : List (Action α)) :
    noted note x (actions ++ actions') =
      noted note x actions ++ noted note (x.run actions) actions' := by
  induction actions generalizing x with
  | nil => rfl
  | cons a actions ih => rw [List.cons_append, noted, noted, ih, List.append_assoc, run_cons]

theorem noted_concat (x : Exchange α) (actions : List (Action α)) (a : Action α) :
    noted note x (actions ++ [a]) = noted note x actions ++ note (x.run actions) a := by
  rw [noted_append, noted, noted, List.append_nil]

end Noted

/-! ### Subscriptions -/

/-- The subscriptions of a feed. -/
def subscribersOf (x : Exchange α) (feed : FeedId) : List (Nat × MailboxId) :=
  (x.feeds[feed]?).elim [] (·.subscribers)

theorem Numbered.subscribersOf {x : Exchange α} {number : MailboxId → Nat} (hx : x.Numbered number)
    (feed : FeedId) : (x.subscribersOf feed).Nodup ∧
      ∀ s ∈ x.subscribersOf feed, x.Belongs number feed s := by
  rw [Exchange.subscribersOf]
  cases hf : x.feeds[feed]? with
  | none => exact ⟨.nil, fun s hs ↦ by cases hs⟩
  | some f => exact hx.subscribers hf

/-- A mailbox is connected by its feed, if somebody holds it and it has the subscription, and by
broadcasts that are to serve it. -/
theorem connected_iff {x : Exchange α} {m : MailboxId} {feed : FeedId}
    (hm : x.feedOf m = some feed) :
    x.connected m = true ↔ (x.feedHeld feed = true ∧ ∃ n, (n, m) ∈ x.subscribersOf feed) ∨
      ∃ b ∈ x.broadcasts, b.running = true ∧ ∃ n, (n, m) ∈ b.targets := by
  obtain ⟨box, hbox, rfl⟩ := Option.map_eq_some_iff.1 hm
  have hany : ∀ l : List (Nat × MailboxId), l.any (·.2 == m) = true ↔ ∃ n, (n, m) ∈ l := by
    intro l
    rw [List.any_eq_true]
    exact ⟨fun ⟨s, hs, hsm⟩ ↦ ⟨s.1, beq_iff_eq.1 hsm ▸ hs⟩,
      fun ⟨n, hn⟩ ↦ ⟨_, hn, beq_self_eq_true _⟩⟩
  have hlisted : (x.feeds[box.feed]?).any (·.subscribers.any (·.2 == m)) = true ↔
      ∃ n, (n, m) ∈ x.subscribersOf box.feed := by
    rw [← hany, Exchange.subscribersOf]
    cases x.feeds[box.feed]? <;> rfl
  rw [connected, hbox, Option.any_some, Bool.or_eq_true, Bool.and_eq_true, hlisted,
    List.any_eq_true]
  simp only [Bool.and_eq_true, hany]

/-- After a change to a feed it has what the change has left and put in, and the others have what
they had. -/
theorem mem_subscribersOf_updateFeed {x : Exchange α} {i feed : FeedId} {g : Feed → Feed}
    {s : Nat × MailboxId} (hs : s ∈ (x.updateFeed i g).subscribersOf feed) :
    i ≠ feed ∧ s ∈ x.subscribersOf feed ∨
      i = feed ∧ ∃ f, x.feeds[feed]? = some f ∧ s ∈ (g f).subscribers := by
  rw [subscribersOf, updateFeed, List.getElem?_modify] at hs
  cases hf : x.feeds[feed]? with
  | none => rw [hf] at hs; cases hs
  | some f =>
    rw [hf] at hs
    by_cases hi : i = feed
    · exact .inr ⟨hi, f, rfl, by simpa [hi] using hs⟩
    · refine .inl ⟨hi, ?_⟩
      rw [subscribersOf, hf]
      simpa [hi] using hs

/-- After a change to a feed that adds none it has some of the subscriptions that it had, in order.
-/
theorem subscribersOf_updateFeed_sublist {x : Exchange α} {g : Feed → Feed}
    (hg : ∀ f, (g f).subscribers.Sublist f.subscribers) (i feed : FeedId) :
    ((x.updateFeed i g).subscribersOf feed).Sublist (x.subscribersOf feed) := by
  rw [subscribersOf, subscribersOf, updateFeed, List.getElem?_modify]
  cases x.feeds[feed]? with
  | none => exact .refl _
  | some f =>
    by_cases hi : i = feed
    · simpa [hi] using hg f
    · simp [hi]

/-- A feed loses subscriptions, or gets one with its next number and a new mailbox. -/
theorem subscribersOf_act_cases (x : Exchange α) (a : Action α) (feed : FeedId) :
    ((x.act a).subscribersOf feed).Sublist (x.subscribersOf feed) ∨
      ∃ f, x.feeds[feed]? = some f ∧ a = .subscribe feed ∧
        (x.subscribe feed).1 = .ok ⟨f.nextNumber, x.mailboxes.length⟩ ∧
        (x.act a).subscribersOf feed =
          x.subscribersOf feed ++ [(f.nextNumber, x.mailboxes.length)] := by
  have hsame : ∀ {x' : Exchange α}, x'.subscribersOf feed = x.subscribersOf feed →
      (x'.subscribersOf feed).Sublist (x.subscribersOf feed) := fun h ↦ h ▸ .refl _
  have hkeep : ∀ {j : FeedId} {g : Feed → Feed}, (∀ f, (g f).subscribers = f.subscribers) →
      ((x.updateFeed j g).subscribersOf feed).Sublist (x.subscribersOf feed) :=
    fun hg ↦ subscribersOf_updateFeed_sublist (fun f ↦ hg f ▸ .refl _) _ feed
  cases a with
  | openFeed capacity =>
    refine .inl (hsame ?_)
    show ((x.feeds ++ [_])[feed]?).elim [] _ = (x.feeds[feed]?).elim [] _
    cases hf : x.feeds[feed]? with
    | some f => rw [getElem?_concat_of_some hf]
    | none =>
      rw [List.getElem?_append_right (List.getElem?_eq_none_iff.1 hf), List.getElem?_singleton]
      split <;> rfl
  | hold j | release j => exact .inl (hkeep fun _ ↦ rfl)
  | close j => exact .inl (subscribersOf_updateFeed_sublist (fun _ ↦ List.nil_sublist _) j feed)
  | unsubscribe j n =>
    exact .inl (subscribersOf_updateFeed_sublist (fun _ ↦ List.filter_sublist) j feed)
  | subscribe j =>
    rw [act]
    rcases x.subscribe_cases j with ⟨-, -, heq | heq⟩ | ⟨f, hf, -, heq⟩ <;> rw [heq]
    · exact .inl (.refl _)
    · exact .inl (hkeep fun _ ↦ rfl)
    · by_cases hj : j = feed
      · subst hj
        refine .inr ⟨f, hf, rfl, by rw [heq], ?_⟩
        rw [subscribersOf, subscribersOf, withSubscription, updateFeed, List.getElem?_modify_eq, hf]
        rfl
      · refine .inl (hsame ?_)
        rw [subscribersOf, subscribersOf, withSubscription, updateFeed,
          List.getElem?_modify_ne _ _ hj]
  | receive m =>
    refine .inl (hsame ?_)
    rw [subscribersOf, subscribersOf, x.feeds_act_receive m]
  | discard | announce => exact .inl (.refl _)
  | advance j =>
    have hadvances := x.advances_advance j
    rw [act]
    generalize (x.advance j).2.2 = x' at hadvances ⊢
    cases hadvances with
    | idle | fix | pass | serve | await => exact .inl (.refl _)
    | @finish b =>
      exact .inl (subscribersOf_updateFeed_sublist (fun _ ↦ List.filter_sublist) b.feed feed)
  | abandon j =>
    rw [act, abandon]
    split
    · exact .inl (.refl _)
    · split <;> exact .inl (.refl _)

/-- What is new on the list of a feed has a new mailbox. -/
theorem mem_subscribersOf_act {x : Exchange α} {a : Action α} {feed : FeedId} {s : Nat × MailboxId}
    (hs : s ∈ (x.act a).subscribersOf feed) :
    s ∈ x.subscribersOf feed ∨ s.2 = x.mailboxes.length := by
  rcases x.subscribersOf_act_cases a feed with hsub | ⟨f, -, -, -, heq⟩
  · exact .inl (hsub.subset hs)
  · rw [heq] at hs
    refine (List.mem_append.1 hs).imp_right fun hnew ↦ ?_
    rw [List.mem_singleton.1 hnew]

/-- Where numbers are taken from a feed, none of their subscriptions is left. -/
theorem not_mem_subscribersOf_of_gone {x : Exchange α} {feed : FeedId} {s : Nat × MailboxId}
    {gone : List Nat} (hs : s.1 ∈ gone) : s ∉ (x.updateFeed feed fun f ↦ { f with
      subscribers := f.subscribers.filter fun s ↦ !gone.contains s.1 }).subscribersOf feed := by
  intro hmem
  rcases mem_subscribersOf_updateFeed hmem with ⟨hne, -⟩ | ⟨-, f, -, hkept⟩
  · exact hne rfl
  · have hnot := (List.mem_filter.1 hkept).2
    simp [hs] at hnot

/-- The first step of a broadcast fixes the subscriptions that its feed has then. -/
theorem getElem?_act_advance_of_fresh {x : Exchange α} {i : BroadcastId} {b : Broadcast α}
    (hb : x.broadcasts[i]? = some b) (hstage : b.stage = .fresh) :
    (x.act (.advance i)).broadcasts[i]? =
      some { b with stage := .sending, targets := x.subscribersOf b.feed } := by
  rw [act, advance, hb]
  simp only [hstage]
  exact getElem?_updateBroadcast hb _

/-! ### What comes into a mailbox -/

/-- What an action puts into a mailbox, and the broadcast whose step it is. -/
def arriving (x : Exchange α) (m : MailboxId) : Action α → List (BroadcastId × Change α)
  | .advance i => (((x.advance i).2.2.queued m).drop (x.queued m).length).map (i, ·)
  | _ => []

/-- What has come into a mailbox in a run. -/
def arrivals (x : Exchange α) (m : MailboxId) (actions : List (Action α)) :
    List (BroadcastId × Change α) :=
  noted (·.arriving m) x actions

theorem arrivals_cons (x : Exchange α) (m : MailboxId) (a : Action α) (actions : List (Action α)) :
    x.arrivals m (a :: actions) = x.arriving m a ++ (x.act a).arrivals m actions :=
  rfl

variable {x : Exchange α} {m : MailboxId}

theorem arriving_of_queued_eq {i : BroadcastId} {new : List (Change α)}
    (h : (x.advance i).2.2.queued m = x.queued m ++ new) :
    x.arriving m (.advance i) = new.map (i, ·) := by
  rw [arriving, h, List.drop_left]

theorem arriving_eq_nil {i : BroadcastId} (h : (x.advance i).2.2.queued m = x.queued m) :
    x.arriving m (.advance i) = [] :=
  arriving_of_queued_eq (h.trans (List.append_nil _).symm)

theorem queued_withSubscription (x : Exchange α) (feed : FeedId) (f : Feed) (m : MailboxId) :
    (x.withSubscription feed f).queued m = x.queued m := by
  show ((x.mailboxes ++ [_])[m]?).elim [] _ = (x.mailboxes[m]?).elim [] _
  rcases Nat.lt_trichotomy m x.mailboxes.length with hm | rfl | hm
  · rw [List.getElem?_append_left hm]
  · rw [List.getElem?_concat_length, List.getElem?_eq_none (Nat.le_refl _)]
    rfl
  · rw [List.getElem?_eq_none (by rw [List.length_append]; exact hm),
      List.getElem?_eq_none (Nat.le_of_lt hm)]

/-- Reading a mailbox takes from its front, and a mailbox that is not read any more is emptied. -/
theorem queued_updateMailbox_suffix {g : Mailbox α → Mailbox α}
    (hg : ∀ box, x.mailboxes[m]? = some box → (g box).queue <:+ box.queue) (i : MailboxId) :
    (x.updateMailbox i g).queued m <:+ x.queued m := by
  rw [queued, queued, updateMailbox, List.getElem?_modify]
  cases hbox : x.mailboxes[m]? with
  | none => exact List.suffix_refl _
  | some box =>
    by_cases hi : i = m
    · simpa [hi] using hg box hbox
    · simp [hi]

/-- Only steps of broadcasts put anything into a mailbox. -/
theorem queued_act_suffix_of_ne {a : Action α} (ha : ∀ i, a ≠ .advance i) (m : MailboxId) :
    (x.act a).queued m <:+ x.queued m := by
  cases a with
  | openFeed | hold | release | close | unsubscribe | announce => exact List.suffix_refl _
  | subscribe feed =>
    rcases x.subscribe_cases feed with ⟨-, -, heq | heq⟩ | ⟨f, -, -, heq⟩
    · exact ⟨[], (congrArg (queued · m) heq :)⟩
    · exact ⟨[], (congrArg (queued · m) heq :)⟩
    · exact ⟨[], (congrArg (·.2.queued m) heq).trans (x.queued_withSubscription feed f m)⟩
  | receive i =>
    rcases x.receive_cases i with ⟨-, heq, -⟩ | ⟨c, rest, hqueue, heq⟩
    · exact ⟨[], (congrArg (queued · m) heq :)⟩
    · rw [act, heq]
      by_cases hi : i = m
      · subst hi
        refine queued_updateMailbox_suffix (fun box hbox ↦ ?_) i
        have hqueue' : box.queue = c :: rest := by rw [← hqueue, queued, hbox]; rfl
        exact hqueue' ▸ List.suffix_cons c rest
      · exact ⟨[], queued_updateMailbox fun _ h ↦ absurd h hi⟩
  | discard i => exact queued_updateMailbox_suffix (fun _ _ ↦ List.nil_suffix) i
  | advance i => exact absurd rfl (ha i)
  | abandon i =>
    rw [act, abandon]
    split
    · exact List.suffix_refl _
    · split
      · exact (queued_map_forget x i m).symm ▸ List.suffix_refl _
      · exact List.suffix_refl _

/-- What a step of a broadcast adds to a mailbox: nothing, or its change if it is the turn of the
mailbox, somebody reads it and there is room. -/
theorem queued_advance_cases (x : Exchange α) (i : BroadcastId) (m : MailboxId) :
    ((x.advance i).2.2.queued m = x.queued m ∧ x.arriving m (.advance i) = []) ∨
      ∃ (b : Broadcast α) (n : Nat) (rest : List (Nat × MailboxId)),
        x.broadcasts[i]? = some b ∧ b.stage = .sending ∧ b.targets = (n, m) :: rest ∧
        (x.mailboxes[m]?).any (·.admits i) = true ∧
        (x.advance i).2.2.queued m = x.queued m ++ [b.change] ∧
        x.arriving m (.advance i) = [(i, b.change)] := by
  have hnone : (x.advance i).2.2.queued m = x.queued m → x.arriving m (.advance i) = [] :=
    arriving_eq_nil
  have hnew : ∀ {c}, (x.advance i).2.2.queued m = x.queued m ++ [c] →
      x.arriving m (.advance i) = [(i, c)] := arriving_of_queued_eq
  have hadvances := x.advances_advance i
  generalize (x.advance i).2.2 = x' at hadvances hnone hnew ⊢
  have hsame : x'.queued m = x.queued m →
      x'.queued m = x.queued m ∧ x.arriving m (.advance i) = [] := fun h ↦ ⟨h, hnone h⟩
  cases hadvances with
  | idle | fix | finish => exact .inl (hsame rfl)
  | pass => exact .inl (hsame (queued_updateMailbox fun _ _ ↦ rfl))
  | @serve b n mailbox rest hb hstage htargets hread hadmits =>
    by_cases hm : mailbox = m
    · subst hm
      have hqueue := queued_push hread i b.change
      exact .inr ⟨b, n, rest, hb, hstage, htargets, hadmits, hqueue, hnew hqueue⟩
    · exact .inl (hsame (queued_updateMailbox fun _ h ↦ absurd h hm))
  | await => exact .inl (hsame (queued_updateMailbox fun box _ ↦ box.queue_await i))

/-- Nothing comes into a mailbox that there is not. -/
theorem arrivals_eq_nil_of_feedOf {actions : List (Action α)}
    (hm : (x.run actions).feedOf m = none) : x.arrivals m actions = [] := by
  induction actions generalizing x with
  | nil => rfl
  | cons a actions ih =>
    have hnone : x.mailboxes[m]? = none := by
      cases hbox : x.mailboxes[m]? with
      | none => rfl
      | some box =>
        have hfeed : x.feedOf m = some box.feed := by rw [feedOf, hbox, Option.map_some]
        rw [feedOf_run hfeed (a :: actions)] at hm
        cases hm
    refine List.append_eq_nil_iff.2 ⟨?_, ih hm⟩
    cases a with
    | advance i =>
      rcases x.queued_advance_cases i m with ⟨-, hnil⟩ | ⟨b, n, rest, -, -, -, hadmits, -⟩
      · exact hnil
      · rw [hnone] at hadmits
        cases hadmits
    | _ => rfl

/-! ### Room -/

/-- The mailboxes hold no more than their feeds provide for. -/
def Bounded (x : Exchange α) : Prop :=
  ∀ (m : MailboxId) (box : Mailbox α), x.mailboxes[m]? = some box →
    ∃ f, x.feeds[box.feed]? = some f ∧ f.capacity = box.capacity ∧
      box.queue.length ≤ box.capacity

theorem bounded_empty : Bounded ({} : Exchange α) := by
  intro m box hbox
  simp at hbox

theorem length_lt_of_admits {box : Mailbox α} {i : BroadcastId} (h : box.admits i = true) :
    box.queue.length < box.capacity := by
  have hlt := of_decide_eq_true h
  rw [Mailbox.room] at hlt
  omega

theorem exists_capacity_act (a : Action α) {feed : FeedId} {f : Feed}
    (hf : x.feeds[feed]? = some f) :
    ∃ f', (x.act a).feeds[feed]? = some f' ∧ f'.capacity = f.capacity := by
  by_cases ha : a = .release feed
  · subst ha
    exact ⟨_, getElem?_modify_of_some hf feed _, by rw [if_pos rfl]⟩
  · obtain ⟨f', hf', hkeeps⟩ := exists_feed_act ha hf
    exact ⟨f', hf', hkeeps.1⟩

theorem exists_room_act (a : Action α) {box : Mailbox α} (hbox : x.mailboxes[m]? = some box) :
    ∃ box', (x.act a).mailboxes[m]? = some box' ∧ box'.feed = box.feed ∧
      box'.capacity = box.capacity := by
  by_cases ha : a = .discard m
  · subst ha
    refine ⟨_, getElem?_modify_of_some hbox m _, ?_⟩
    rw [if_pos rfl]
    exact ⟨rfl, rfl⟩
  · obtain ⟨box', hbox', hfeed, hcapacity, -⟩ := exists_mailbox_act ha hbox
    exact ⟨box', hbox', hfeed, hcapacity⟩

/-- A mailbox that was not there before is that of a new subscription. -/
theorem eq_of_mailbox_new {a : Action α} {box : Mailbox α} (hnone : x.mailboxes[m]? = none)
    (hbox : (x.act a).mailboxes[m]? = some box) :
    ∃ feed f, x.feeds[feed]? = some f ∧ box = { feed, capacity := f.capacity } := by
  have hsame : x.mailboxes[m]? ≠ some box := by
    rw [hnone]
    nofun
  have hmodify : ∀ {i : MailboxId} {g : Mailbox α → Mailbox α},
      (x.mailboxes.modify i g)[m]? ≠ some box := by
    intro i g h
    obtain ⟨box₀, hbox₀, -⟩ := exists_of_getElem?_modify h
    rw [hnone] at hbox₀
    cases hbox₀
  cases a with
  | openFeed | hold | release | close | unsubscribe | announce => exact absurd hbox hsame
  | subscribe feed =>
    rw [act] at hbox
    rcases x.subscribe_cases feed with ⟨-, -, heq | heq⟩ | ⟨f, hf, -, heq⟩ <;> rw [heq] at hbox
    · exact absurd hbox hsame
    · exact absurd hbox hsame
    · rcases getElem?_concat_cases hbox with hbox | ⟨-, rfl⟩
      · exact absurd hbox hsame
      · exact ⟨feed, f, hf, rfl⟩
  | receive i =>
    rw [act] at hbox
    rcases x.receive_cases i with ⟨-, heq, -⟩ | ⟨c, rest, -, heq⟩ <;> rw [heq] at hbox
    · exact absurd hbox hsame
    · exact absurd hbox hmodify
  | discard i => exact absurd hbox hmodify
  | advance i =>
    have hadvances := x.advances_advance i
    rw [act] at hbox
    generalize (x.advance i).2.2 = x' at hadvances hbox
    cases hadvances with
    | idle | fix | finish => exact absurd hbox hsame
    | pass | serve | await => exact absurd hbox hmodify
  | abandon i =>
    rw [act, abandon] at hbox
    split at hbox
    · exact absurd hbox hsame
    · split at hbox
      · have hnone' : (x.mailboxes.map fun m ↦ m.forget i)[m]? = some box := hbox
        rw [List.getElem?_map, hnone] at hnone'
        cases hnone'
      · exact absurd hbox hsame

/-- Every action keeps the mailboxes within their bounds: nothing is put where there is no room. -/
theorem Bounded.act (hx : x.Bounded) (a : Action α) : (x.act a).Bounded := by
  intro m box' hbox'
  cases hbox : x.mailboxes[m]? with
  | none =>
    obtain ⟨feed, f, hf, rfl⟩ := eq_of_mailbox_new hbox hbox'
    obtain ⟨f', hf', hcapacity⟩ := exists_capacity_act a hf
    exact ⟨f', hf', hcapacity, Nat.zero_le _⟩
  | some box =>
    obtain ⟨f, hf, hcapacity, hle⟩ := hx m box hbox
    obtain ⟨f', hf', hcapacity'⟩ := exists_capacity_act a hf
    obtain ⟨box₁, hbox₁, hfeed, hroom⟩ := exists_room_act a hbox
    rw [hbox', Option.some.injEq] at hbox₁
    subst hbox₁
    have hqueue : x.queued m = box.queue := by rw [queued, hbox]; rfl
    have hqueue' : (x.act a).queued m = box'.queue := by rw [queued, hbox']; rfl
    refine ⟨f', hfeed ▸ hf', by rw [hcapacity', hcapacity, hroom], ?_⟩
    rw [hroom, ← hqueue']
    by_cases ha : ∃ i, a = .advance i
    · obtain ⟨i, rfl⟩ := ha
      rw [Exchange.act]
      rcases x.queued_advance_cases i m with ⟨heq, -⟩ | ⟨b, n, rest, -, -, -, hadmits, heq, -⟩ <;>
        rw [heq, hqueue]
      · exact hle
      · rw [hbox, Option.any_some] at hadmits
        rw [List.length_append]
        exact length_lt_of_admits hadmits
    · rw [← hqueue] at hle
      exact Nat.le_trans (queued_act_suffix_of_ne (fun i hi ↦ ha ⟨i, hi⟩) m).length_le hle

theorem bounded_run (actions : List (Action α)) : (({} : Exchange α).run actions).Bounded := by
  have hrun : ∀ {x : Exchange α}, x.Bounded → (x.run actions).Bounded := by
    induction actions with
    | nil => exact id
    | cons a actions ih => exact fun hx ↦ ih (hx.act a)
  exact hrun bounded_empty

end Exchange

end LiveFind
