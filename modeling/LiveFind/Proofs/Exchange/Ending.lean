import Mathlib.Data.List.Induction
import LiveFind.Proofs.Exchange.Order

/-!
# The end of a subscription

A subscription ends when its number is given up or its feed is closed. Its feed does not have it any
more then, so no broadcast that starts later is to serve it. But a broadcast that has fixed its
subscriptions before keeps to them, and serves those that have ended meanwhile, too.

So what a subscription gets after its end comes from broadcasts that were in flight then and still
to serve it (`Sending`), one change from each. Its mailbox has fallen silent (`Silent`) exactly if
none of them is left (`Ended.silent_iff`): otherwise another change may come, and a reader who has
read all there is waits for it.
-/

namespace LiveFind

namespace Exchange

variable {α : Type}

/-- The broadcast sends the change and is still to serve the subscription. -/
def Sending (x : Exchange α) (s : Nat × MailboxId) (p : BroadcastId × Change α) : Prop :=
  ∃ b, x.broadcasts[p.1]? = some b ∧ b.stage = .sending ∧ s ∈ b.targets ∧ b.change = p.2

/-- Nothing comes into the mailbox any more, and who has read all that is in it is told so. -/
def Silent (x : Exchange α) (m : MailboxId) : Prop :=
  ∀ later : List (Action α), x.arrivals m later = [] ∧
    ((x.run later).queued m = [] → ((x.run later).receive m).1 = .ended)

/-- The subscription is none of its feed any more, and broadcasts that have not fixed their
subscriptions have none. -/
structure Ended (x : Exchange α) (feed : FeedId) (s : Nat × MailboxId) : Prop where
  numbered : ∃ number, x.Numbered number ∧ x.Belongs number feed s
  unlisted : s ∉ x.subscribersOf feed
  fresh : ∀ b ∈ x.broadcasts, b.stage = .fresh → b.targets = []

variable {x : Exchange α} {feed : FeedId} {s : Nat × MailboxId} {a : Action α}

theorem idle_iff : x.Idle s ↔ ∀ p, ¬x.Sending s p :=
  ⟨fun hidle _ ⟨b, hb, hstage, hmem, _⟩ ↦ hidle _ b hb hstage hmem,
    fun hnone i b hb hstage hmem ↦ hnone (i, b.change) ⟨b, hb, hstage, hmem, rfl⟩⟩

/-! ### Steps after the end -/

/-- Before its first step a broadcast has no subscription to serve. -/
theorem targets_act_of_fresh (hx : ∀ b ∈ x.broadcasts, b.stage = .fresh → b.targets = [])
    (a : Action α) : ∀ b ∈ (x.act a).broadcasts, b.stage = .fresh → b.targets = [] := by
  intro b' hb' hfresh
  obtain ⟨i, hi⟩ := List.mem_iff_getElem?.1 hb'
  cases hb : x.broadcasts[i]? with
  | none =>
    obtain ⟨feed, c, rfl⟩ := eq_of_broadcast_new hb hi
    rfl
  | some b =>
    by_cases ha : a = .advance i
    · subst ha
      obtain ⟨b₁, hb₁, -, hstage, -⟩ := exists_broadcast_act_advance hb
      rw [hi, Option.some.injEq] at hb₁
      exact absurd hfresh (hb₁ ▸ hstage)
    · obtain ⟨b₁, hb₁, hsame⟩ := exists_broadcast_act_of_ne ha hb
      rw [hi, Option.some.injEq] at hb₁
      subst hb₁
      rcases hsame with rfl | ⟨-, rfl⟩
      · exact hx b' (List.mem_of_getElem? hb) hfresh
      · rfl

/-- Nobody brings a subscription back. -/
theorem Ended.act (h : x.Ended feed s) (a : Action α) : (x.act a).Ended feed s := by
  obtain ⟨number, hx, hs⟩ := h.numbered
  obtain ⟨number', hx', hs'⟩ := hx.act_belongs hs a
  refine ⟨⟨number', hx', hs'⟩, fun hmem ↦ ?_, targets_act_of_fresh h.fresh a⟩
  rcases mem_subscribersOf_act hmem with hold | hnew
  · exact h.unlisted hold
  · exact ne_length_of_feedOf hs.1 hnew

theorem Ended.run (h : x.Ended feed s) (later : List (Action α)) :
    (x.run later).Ended feed s := by
  induction later generalizing x with
  | nil => exact h
  | cons a later ih => exact ih (h.act a)

/-- After its end a subscription gets no new senders, and a sender that serves it is one no more. -/
theorem Ended.sending_of_act (h : x.Ended feed s) {p : BroadcastId × Change α}
    (hp : (x.act a).Sending s p) :
    x.Sending s p ∧ (a = .advance p.1 → x.arriving s.2 a = []) := by
  obtain ⟨number, hx, hs⟩ := h.numbered
  obtain ⟨b', hb', hstage', hmem', hchange'⟩ := hp
  obtain ⟨b, hb, hchange, ⟨hstage, hmem, hquiet⟩ | ⟨-, -, -, hlisted⟩⟩ :=
    sender_cases hx hs hb' hstage' hmem'
  · exact ⟨⟨b, hb, hstage, hmem, hchange.symm.trans hchange'⟩, hquiet⟩
  · exact absurd hlisted h.unlisted

theorem Ended.idle_run (h : x.Ended feed s) (hidle : x.Idle s) (later : List (Action α)) :
    (x.run later).Idle s := by
  induction later generalizing x with
  | nil => exact hidle
  | cons a later ih =>
    exact ih (h.act a) (idle_iff.2 fun p hp ↦ idle_iff.1 hidle p (h.sending_of_act hp).1)

/-- What comes after the end is sent by those that were to serve the subscription then, by each of
them once. -/
theorem Ended.sending_of_mem_arrivals (h : x.Ended feed s) (later : List (Action α)) :
    ((x.arrivals s.2 later).map (·.1)).Nodup ∧ ∀ p ∈ x.arrivals s.2 later, x.Sending s p := by
  induction later generalizing x with
  | nil => exact ⟨.nil, fun p hp ↦ by cases hp⟩
  | cons a later ih =>
    obtain ⟨number, hx, hs⟩ := h.numbered
    obtain ⟨hnodup, hsent⟩ := ih (h.act a)
    have hbefore := fun p hp ↦ h.sending_of_act (hsent p hp)
    rw [arrivals_cons]
    rcases arriving_cases hx hs a with hnone | ⟨i, b, rest, ha, hb, hstage, htargets, hnew⟩
    · rw [hnone, List.nil_append]
      exact ⟨hnodup, fun p hp ↦ (hbefore p hp).1⟩
    · rw [hnew, List.singleton_append]
      refine ⟨List.nodup_cons.2 ⟨fun hmem ↦ ?_, hnodup⟩, fun p hp ↦ ?_⟩
      · -- who has served the subscription does not send to it again
        obtain ⟨p, hp, heq⟩ := List.mem_map.1 hmem
        rw [(hbefore p hp).2 (by rw [ha, heq])] at hnew
        cases hnew
      · rcases List.mem_cons.1 hp with rfl | hp
        · exact ⟨b, hb, hstage, htargets ▸ List.mem_cons_self, rfl⟩
        · exact (hbefore p hp).1

/-! ### What the reader is told -/

/-- After its end a subscription is connected by those only that are still to serve it. -/
theorem Ended.connected_iff (h : x.Ended feed s) : x.connected s.2 = true ↔ ¬x.Idle s := by
  obtain ⟨number, hx, hs⟩ := h.numbered
  rw [Exchange.connected_iff hs.1]
  constructor
  · rintro (⟨-, n, hlisted⟩ | ⟨b, hb, hrunning, n, hmem⟩) hidle
    · have hn : n = s.1 := ((hx.subscribersOf feed).2 _ hlisted).2.trans hs.2.symm
      rw [hn] at hlisted
      exact h.unlisted hlisted
    · obtain ⟨i, hi⟩ := List.mem_iff_getElem?.1 hb
      rw [hx.eq_of_mailbox hs hi hmem rfl] at hmem
      rcases Bool.or_eq_true_iff.1 hrunning with hstage | hstage
      · rw [h.fresh b hb (beq_iff_eq.1 hstage)] at hmem
        cases hmem
      · exact hidle i b hi (beq_iff_eq.1 hstage) hmem
  · intro hbusy
    obtain ⟨p, b, hb, hstage, hmem, -⟩ := not_forall_not.1 (mt idle_iff.2 hbusy)
    exact .inr ⟨b, List.mem_of_getElem? hb, by rw [Broadcast.running, hstage]; rfl, s.1, hmem⟩

theorem receive_of_queued_eq_nil {m : MailboxId} (hm : x.feedOf m = some feed)
    (hqueue : x.queued m = []) :
    (x.receive m).1 = if x.connected m then .empty else .ended := by
  obtain ⟨box, hbox, -⟩ := Option.map_eq_some_iff.1 hm
  rw [queued, hbox, Option.elim_some] at hqueue
  rw [receive, hbox]
  simp only [hqueue]

/-- Reading takes the first change of a mailbox, and no broadcast notices. -/
theorem act_receive (x : Exchange α) (m : MailboxId) :
    (x.act (.receive m)).queued m = (x.queued m).tail ∧
      (x.act (.receive m)).broadcasts = x.broadcasts := by
  rw [Exchange.act]
  rcases x.receive_cases m with ⟨hnil, heq, -⟩ | ⟨c, rest, hqueue, heq⟩ <;> rw [heq]
  · exact ⟨by rw [hnil, List.tail_nil], rfl⟩
  · refine ⟨?_, rfl⟩
    rw [hqueue, List.tail_cons]
    rw [queued] at hqueue
    rw [queued, updateMailbox, List.getElem?_modify_eq]
    cases hbox : x.mailboxes[m]? with
    | none => rw [hbox] at hqueue; cases hqueue
    | some box => rfl

/-- Who reads often enough has read all that was in the mailbox. -/
theorem exists_run_queued_eq_nil (x : Exchange α) (m : MailboxId) :
    ∃ later : List (Action α), (x.run later).queued m = [] ∧
      (x.run later).broadcasts = x.broadcasts := by
  induction hqueue : x.queued m generalizing x with
  | nil => exact ⟨[], hqueue, rfl⟩
  | cons c rest ih =>
    obtain ⟨hread, hsame⟩ := x.act_receive m
    rw [hqueue, List.tail_cons] at hread
    obtain ⟨later, hnil, heq⟩ := ih _ hread
    exact ⟨.receive m :: later, hnil, heq.trans hsame⟩

/-- The mailbox of a subscription that has ended falls silent when no broadcast is left that is to
serve it. -/
theorem Ended.silent_iff (h : x.Ended feed s) : x.Silent s.2 ↔ x.Idle s := by
  have hreceive : ∀ {x : Exchange α}, x.Ended feed s → x.queued s.2 = [] →
      (x.receive s.2).1 = if x.connected s.2 then .empty else .ended := fun h hqueue ↦
    have ⟨_, _, hs⟩ := h.numbered
    receive_of_queued_eq_nil hs.1 hqueue
  refine ⟨fun hsilent ↦ ?_, fun hidle later ↦ ⟨?_, fun hqueue ↦ ?_⟩⟩
  · by_contra hbusy
    -- the sender that is left keeps the reader waiting
    obtain ⟨later, hqueue, hsame⟩ := x.exists_run_queued_eq_nil s.2
    have hbusy' : ¬(x.run later).Idle s := by
      rw [Idle, hsame]
      exact hbusy
    have hended := (hsilent later).2 hqueue
    rw [hreceive (h.run later) hqueue, (h.run later).connected_iff.2 hbusy'] at hended
    cases hended
  · refine List.eq_nil_iff_forall_not_mem.2 fun p hp ↦ ?_
    exact idle_iff.1 hidle p ((h.sending_of_mem_arrivals later).2 p hp)
  · have hconnected := mt (h.run later).connected_iff.1 (not_not_intro (h.idle_run hidle later))
    rw [hreceive (h.run later) hqueue, if_neg hconnected]

/-! ### Every run -/

theorem targets_run_of_fresh (actions : List (Action α)) :
    ∀ b ∈ (({} : Exchange α).run actions).broadcasts, b.stage = .fresh → b.targets = [] := by
  induction actions using List.reverseRecOn with
  | nil => exact fun b hb ↦ by cases hb
  | append_singleton actions a ih =>
    rw [run_concat]
    exact targets_act_of_fresh ih a

/-- A subscription that a run makes belongs to its feed. -/
theorem Subscribes.exists_belongs {actions earlier : List (Action α)} {s : Subscription}
    (hs : Subscribes feed actions earlier s) :
    ∃ number, (({} : Exchange α).run actions).Numbered number ∧
      (({} : Exchange α).run actions).Belongs number feed (s.number, s.mailbox) := by
  obtain ⟨⟨later, rfl⟩, hok⟩ := hs
  obtain ⟨number, hx⟩ := exists_numbered_run (α := α) earlier
  rw [run_append, run_cons]
  generalize ({} : Exchange α).run earlier = x at hok hx ⊢
  rcases x.subscribe_cases feed with ⟨fault, herror, -⟩ | ⟨f, hf, hopen, heq⟩
  · rw [herror] at hok
    cases hok
  · rw [heq, Except.ok.injEq] at hok
    subst hok
    rw [Exchange.act, heq]
    exact (hx.withSubscription hf hopen).run_belongs
      (x.belongs_withSubscription number feed f) later

/-- A subscription ends when its number is given up or its feed is closed. -/
theorem ended_act {number : MailboxId → Nat} (hx : x.Numbered number)
    (hs : x.Belongs number feed s)
    (hfresh : ∀ b ∈ x.broadcasts, b.stage = .fresh → b.targets = [])
    (ha : a = .unsubscribe feed s.1 ∨ a = .close feed) : (x.act a).Ended feed s := by
  obtain ⟨number', hx', hs'⟩ := hx.act_belongs hs a
  refine ⟨⟨number', hx', hs'⟩, fun hmem ↦ ?_, targets_act_of_fresh hfresh a⟩
  rcases ha with rfl | rfl
  · rcases mem_subscribersOf_updateFeed hmem with ⟨hne, -⟩ | ⟨-, f, -, hkept⟩
    · exact hne rfl
    · simpa using (List.mem_filter.1 hkept).2
  · rcases mem_subscribersOf_updateFeed hmem with ⟨hne, -⟩ | ⟨-, f, -, hkept⟩
    · exact hne rfl
    · cases hkept

/-- After a subscription was ended, by its number or with its feed, its mailbox is silent from the
time on at which no broadcast is left that is to serve it, and not before. Until then it gets at
most one change from each of the broadcasts that were in flight and to serve it when it ended, and
nothing else. -/
theorem silent_after_end {actions earlier : List (Action α)} {s : Subscription}
    (hs : Subscribes feed actions earlier s)
    (ha : a = .unsubscribe feed s.number ∨ a = .close feed) (later : List (Action α)) :
    let x := ({} : Exchange α).run actions
    let x' := x.act a
    ((x'.run later).Silent s.mailbox ↔ (x'.run later).Idle (s.number, s.mailbox)) ∧
      ((x'.arrivals s.mailbox later).map (·.1)).Nodup ∧
      ∀ p ∈ x'.arrivals s.mailbox later, x.Sending (s.number, s.mailbox) p := by
  intro x x'
  obtain ⟨number, hx, hbelongs⟩ := hs.exists_belongs
  have hended : x'.Ended feed (s.number, s.mailbox) :=
    ended_act hx hbelongs (targets_run_of_fresh actions) ha
  have hsame : x'.broadcasts = x.broadcasts := by
    rcases ha with rfl | rfl <;> rfl
  obtain ⟨hnodup, hsent⟩ := hended.sending_of_mem_arrivals later
  refine ⟨(hended.run later).silent_iff, hnodup, fun p hp ↦ ?_⟩
  obtain ⟨b, hb, hrest⟩ := hsent p hp
  exact ⟨b, hsame ▸ hb, hrest⟩

/-- The second of two subscriptions ends while a broadcast waits for the reader of the first one.
When the broadcast has served both it is silent. -/
theorem silent_after_end_waiting :
    let earlier : List (Action Nat) := [.openFeed 1, .subscribe 0]
    let actions : List (Action Nat) :=
      earlier ++ [.subscribe 0, .announce 0 (.added 5), .advance 0, .advance 0, .advance 0,
        .advance 0, .receive 1, .announce 0 (.added 6), .advance 1, .advance 1]
    let later : List (Action Nat) := [.receive 0, .advance 1, .advance 1]
    let x := ({} : Exchange Nat).run actions
    let x' := x.act (.unsubscribe 0 2)
    Subscribes 0 actions earlier ⟨2, 1⟩ ∧ ¬x'.Silent 1 ∧ (x'.run later).Silent 1 ∧
      x'.arrivals 1 later = [(1, .added 6)] ∧ ((x'.arrivals 1 later).map (·.1)).Nodup ∧
      ∀ p ∈ x'.arrivals 1 later, x.Sending (2, 1) p := by
  intro earlier actions later x x'
  have hs : Subscribes 0 actions earlier ⟨2, 1⟩ := ⟨⟨_, rfl⟩, by decide⟩
  have hsilent := fun later ↦ silent_after_end hs (.inl rfl) later
  obtain ⟨hafter, hnodup, hsent⟩ := hsilent later
  have hbusy : ¬x'.Idle (2, 1) := fun hidle ↦ idle_iff.1 hidle (1, .added 6) ⟨_, rfl, by decide⟩
  have hidle : (x'.run later).Idle (2, 1) := by
    intro i b hb hstage
    have hnone : ∀ b ∈ (x'.run later).broadcasts, b.stage = .sending → (2, 1) ∉ b.targets := by
      decide
    exact hnone b (List.mem_of_getElem? hb) hstage
  exact ⟨hs, fun h ↦ hbusy ((hsilent []).1.1 h), hafter.2 hidle, by decide, hnodup, hsent⟩

/-- Ending a subscription, by its number or with its feed, does not stop a broadcast in flight: a
mailbox from which all has been read is not at its end then, and another change comes. -/
theorem exists_arrival_after_end :
    let earlier : List (Action Nat) := [.openFeed 1, .subscribe 0]
    let actions : List (Action Nat) :=
      earlier ++ [.subscribe 0, .announce 0 (.added 5), .advance 0, .advance 0, .advance 0,
        .advance 0, .receive 1, .announce 0 (.added 6), .advance 1, .advance 1]
    let x := ({} : Exchange Nat).run actions
    Subscribes 0 actions earlier ⟨2, 1⟩ ∧ x.isRead 1 = true ∧
      ∀ a ∈ [Action.unsubscribe 0 2, .close 0],
        (x.act a).queued 1 = [] ∧ ((x.act a).receive 1).1 = .empty ∧
          (x.act a).arrivals 1 [.receive 0, .advance 1, .advance 1] = [(1, .added 6)] := by
  intro earlier actions x
  exact ⟨⟨⟨_, rfl⟩, by decide⟩, by decide, by decide⟩

end Exchange

end LiveFind
