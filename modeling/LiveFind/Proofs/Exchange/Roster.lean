import LiveFind.Proofs.Exchange.FanOut
import LiveFind.Proofs.Exchange.Issued
import LiveFind.Proofs.Exchange.Order

/-!
# The list of a feed

A feed lists its subscriptions in the order in which they were made. A new one takes the next number
and goes to the end, and everything else only takes some away; so the numbers on the list are some
of those given out, in order (`listed_sublist_issued`), and they ascend. A number stands for one
subscription at most, and who gives it up ends that one and no other (`act_unsubscribe_of_eq`).

A broadcast that is done has its feed forget the subscriptions whose reader it found gone. It knows
them by their numbers only, and meanwhile the list may have changed in any way. But no number is
given out again and nobody comes back to read a mailbox. So what the feed forgets has been on its
list since the first step of the broadcast, and nobody reads it (`unread_of_forgotten`,
`listed_of_forgotten`).
-/

namespace LiveFind

namespace Exchange

variable {α : Type} {x : Exchange α} {feed : FeedId} {f : Feed} {number : MailboxId → Nat}

/-! ### The order of the list -/

/-- The numbers on the list of a feed are some of those that it has given out, in order. -/
theorem listed_sublist_issued (feed : FeedId) (actions : List (Action α)) :
    (((({} : Exchange α).run actions).subscribersOf feed).map (·.1)).Sublist
      (({} : Exchange α).issued feed actions) := by
  induction actions using List.reverseRecOn with
  | nil => exact .refl _
  | append_singleton actions a ih =>
    rw [run_concat, issued, noted_concat, ← issued]
    generalize ({} : Exchange α).run actions = x at ih ⊢
    rcases x.subscribersOf_act_cases a feed with hsub | ⟨f, -, rfl, hok, heq⟩
    · exact ((hsub.map _).trans ih).trans (List.sublist_append_left _ _)
    · have hissuing : x.issuing feed (.subscribe feed) = [f.nextNumber] := by
        rw [issuing, if_pos rfl, hok]
        rfl
      rw [heq, hissuing, List.map_append]
      exact ih.append (.refl _)

theorem isClosed_run (h : x.isClosed feed = true) (later : List (Action α)) :
    (x.run later).isClosed feed = true := by
  induction later generalizing x with
  | nil => exact h
  | cons a later ih => exact ih (isClosed_act a h)

theorem Numbered.subscribersOf_of_isClosed (hx : x.Numbered number)
    (h : x.isClosed feed = true) : x.subscribersOf feed = [] := by
  rw [Exchange.subscribersOf]
  cases hf : x.feeds[feed]? with
  | none => rfl
  | some f =>
    rw [isClosed_of_some hf] at h
    exact hx.closed hf h

/-! ### Giving up a number -/

/-- Where each number stands once, giving one up leaves those before and behind it. -/
theorem filter_ne_of_pairwise {before after : List (Nat × MailboxId)} {n : Nat} {m : MailboxId}
    (h : ((before ++ (n, m) :: after).map (·.1)).Pairwise (· < ·)) :
    (before ++ (n, m) :: after).filter (·.1 != n) = before ++ after := by
  rw [List.map_append, List.map_cons, List.pairwise_append, List.pairwise_cons] at h
  obtain ⟨-, ⟨hafter, -⟩, hbefore⟩ := h
  have hkeep : ∀ l : List (Nat × MailboxId), (∀ s ∈ l, s.1 ≠ n) → l.filter (·.1 != n) = l :=
    fun l hl ↦ List.filter_eq_self.2 fun s hs ↦ bne_iff_ne.2 (hl s hs)
  rw [List.filter_append, List.filter_cons, if_neg (by simp), hkeep, hkeep]
  · exact fun s hs ↦ Nat.ne_of_gt (hafter s.1 (List.mem_map_of_mem hs))
  · exact fun s hs ↦ Nat.ne_of_lt (hbefore s.1 (List.mem_map_of_mem hs) n List.mem_cons_self)

/-- What giving up a number does depends on the list of the feed only. -/
theorem act_unsubscribe (hf : x.feeds[feed]? = some f) {n : Nat} {left : List (Nat × MailboxId)}
    (h : f.subscribers.filter (·.1 != n) = left) :
    x.act (.unsubscribe feed n) = x.updateFeed feed fun f ↦ { f with subscribers := left } := by
  rw [act, unsubscribe, updateFeed, updateFeed,
    modify_congr hf (k := fun f ↦ { f with subscribers := left }) (by rw [h])]

theorem act_unsubscribe_of_not_mem {n : Nat} (hn : n ∉ (x.subscribersOf feed).map (·.1)) :
    x.act (.unsubscribe feed n) = x := by
  rw [act, unsubscribe, updateFeed]
  cases hf : x.feeds[feed]? with
  | none => rw [List.modify_eq_self (List.getElem?_eq_none_iff.1 hf)]
  | some f =>
    rw [subscribersOf, hf, Option.elim_some] at hn
    have hkeep : f.subscribers.filter (·.1 != n) = f.subscribers :=
      List.filter_eq_self.2 fun s hs ↦
        bne_iff_ne.2 fun heq ↦ hn (List.mem_map.2 ⟨s, hs, heq⟩)
    rw [modify_congr hf (k := id) (by rw [hkeep]; rfl), List.modify_id]

/-- Giving up a number that is on the list ends its subscription, and leaves everything else as it
is. -/
theorem act_unsubscribe_of_eq (hx : ((x.subscribersOf feed).map (·.1)).Pairwise (· < ·)) {n : Nat}
    {m : MailboxId} {before after : List (Nat × MailboxId)}
    (h : x.subscribersOf feed = before ++ (n, m) :: after) :
    x.act (.unsubscribe feed n) =
      x.updateFeed feed fun f ↦ { f with subscribers := before ++ after } := by
  have hleft := filter_ne_of_pairwise (h ▸ hx)
  rw [← h] at hleft
  cases hf : x.feeds[feed]? with
  | none =>
    rw [subscribersOf, hf, Option.elim_none] at h
    simp at h
  | some f =>
    rw [subscribersOf, hf, Option.elim_some] at hleft
    exact act_unsubscribe hf hleft

/-! ### What a broadcast makes a feed forget -/

/-- What is noted in a run is noted at some action of it. -/
theorem exists_of_mem_noted {β : Type} {note : Exchange α → Action α → List β} {p : β}
    {actions : List (Action α)} (hp : p ∈ noted note x actions) :
    ∃ earlier a later, actions = earlier ++ a :: later ∧ p ∈ note (x.run earlier) a := by
  induction actions generalizing x with
  | nil => cases hp
  | cons a actions ih =>
    rcases List.mem_append.1 hp with hp | hp
    · exact ⟨[], a, actions, rfl, hp⟩
    · obtain ⟨earlier, a', later, rfl, hnoted⟩ := ih hp
      exact ⟨a :: earlier, a', later, rfl, hnoted⟩

/-- Only the last step of a broadcast takes anything off a list, by the numbers of those that were
gone. -/
theorem exists_of_forgotten {i : BroadcastId} {s : Nat × MailboxId}
    (hs : s ∈ x.subscribersOf feed) (hforgotten : s ∉ (x.act (.advance i)).subscribersOf feed) :
    ∃ b, x.broadcasts[i]? = some b ∧ b.feed = feed ∧ s.1 ∈ b.gone := by
  have hadvances := x.advances_advance i
  rw [act] at hforgotten
  generalize (x.advance i).2.2 = x' at hadvances hforgotten
  cases hadvances with
  | idle | fix | pass | serve | await => exact absurd hs hforgotten
  | @finish b hb =>
    by_cases hfeed : b.feed = feed
    · subst hfeed
      refine ⟨b, hb, rfl, ?_⟩
      by_contra hgone
      refine hforgotten ?_
      rw [subscribersOf] at hs
      show s ∈ (((x.feeds.modify b.feed _)[b.feed]?).elim [] _)
      rw [List.getElem?_modify_eq]
      cases hf : x.feeds[b.feed]? with
      | none => rw [hf] at hs; cases hs
      | some f =>
        rw [hf] at hs
        exact List.mem_filter.2 ⟨hs, by simpa using hgone⟩
    · refine absurd ?_ hforgotten
      rw [subscribersOf] at hs ⊢
      exact (List.getElem?_modify_ne _ _ hfeed).symm ▸ hs

/-- What a feed forgets is not read any more. -/
theorem Numbered.unread_of_forgotten (hx : x.Numbered number) {i : BroadcastId}
    {s : Nat × MailboxId} (hs : s ∈ x.subscribersOf feed)
    (hforgotten : s ∉ (x.act (.advance i)).subscribersOf feed) : x.isRead s.2 = false := by
  obtain ⟨b, hb, rfl, hgone⟩ := exists_of_forgotten hs hforgotten
  obtain ⟨m, hm, hread⟩ := hx.gone hb hgone
  rwa [hx.eq_of_belongs ((hx.subscribersOf b.feed).2 s hs) hm]

/-- What a feed forgets was on its list when the broadcast took its first step. -/
theorem listed_of_forgotten {actions : List (Action α)} {i : BroadcastId} {s : Nat × MailboxId}
    (hs : s ∈ (({} : Exchange α).run actions).subscribersOf feed)
    (hforgotten : s ∉ ((({} : Exchange α).run actions).act (.advance i)).subscribersOf feed) :
    ∃ earlier later b, actions = earlier ++ .advance i :: later ∧
      (({} : Exchange α).run earlier).broadcasts[i]? = some b ∧ b.stage = .fresh ∧
      s ∈ (({} : Exchange α).run earlier).subscribersOf feed := by
  obtain ⟨b, hb, rfl, hgone⟩ := exists_of_forgotten hs hforgotten
  have hserved := served_run (α := α) i actions
  rw [hb] at hserved
  rw [hserved.gone] at hgone
  obtain ⟨⟨t, read⟩, htried, hnumber⟩ := List.mem_map.1 hgone
  have hfixed := hserved.mem_fixed (List.mem_filter.1 htried).1
  have hfeed := hserved.known t hfixed
  obtain ⟨earlier, a, later, rfl, hfixing⟩ := exists_of_mem_noted hfixed
  cases a with
  | advance j =>
    rw [fixing] at hfixing
    cases hb₀ : (({} : Exchange α).run earlier).broadcasts[j]? with
    | none => rw [hb₀] at hfixing; cases hfixing
    | some b₀ =>
      rw [hb₀, Option.elim_some] at hfixing
      split at hfixing
      · rename_i hfirst
        obtain ⟨rfl, hstage⟩ := hfirst
        obtain ⟨number, hx⟩ := exists_numbered_run (α := α) earlier
        -- the two have the same number and so the same mailbox
        obtain ⟨number', hx', ht⟩ :=
          hx.run_belongs ((hx.subscribersOf b₀.feed).2 t hfixing) (.advance j :: later)
        rw [← run_append] at hx' ht
        rw [ht.1, Option.some.injEq] at hfeed
        rw [hfeed] at ht hfixing
        have hst : s = t := Prod.ext hnumber.symm
          (hx'.eq_of_belongs ((hx'.subscribersOf b.feed).2 s hs) (hnumber ▸ ht))
        exact ⟨earlier, later, b₀, rfl, hb₀, hstage, hst ▸ hfixing⟩
      · cases hfixing
  | _ => cases hfixing

/-! ### Every run -/

/-- Whatever happens, the numbers on the list of a feed ascend, and the next one is above them all.
The numbers that were given out ascend too, so that none was given out twice; they are all smaller
than 2⁶⁴ as long as there were fewer attempts to subscribe. A closed feed lists nothing, and stays
closed. Giving up a number ends its subscription, if there is one, and leaves everything else as it
is. A step of a broadcast takes away only what nobody reads any more and what was listed already at
its first step, and leaves the others in order. -/
theorem listed_in_order (actions : List (Action α)) (feed : FeedId) :
    let e : Exchange α := {}
    let x := e.run actions
    let listed := x.subscribersOf feed
    (((listed.map (·.1)).Pairwise (· < ·) ∧ ∀ s ∈ listed, s.1 < x.nextOf feed) ∧
      (e.issued feed actions).Pairwise (· < ·) ∧
      (∀ n ∈ e.issued feed actions, n < x.nextOf feed) ∧
      x.nextOf feed ≤ actions.countP (·.subscribes feed) + 1) ∧
    (x.isClosed feed = true → ∀ later : List (Action α),
      (x.run later).isClosed feed = true ∧ (x.run later).subscribersOf feed = []) ∧
    (∀ n, (n ∉ listed.map (·.1) → x.act (.unsubscribe feed n) = x) ∧
      ∀ m before after, listed = before ++ (n, m) :: after → x.act (.unsubscribe feed n) =
        x.updateFeed feed fun f ↦ { f with subscribers := before ++ after }) ∧
    ∀ i, ((x.act (.advance i)).subscribersOf feed).Sublist listed ∧
      ∀ s ∈ listed, s ∉ (x.act (.advance i)).subscribersOf feed →
        x.isRead s.2 = false ∧ ∃ earlier later b, actions = earlier ++ .advance i :: later ∧
          (e.run earlier).broadcasts[i]? = some b ∧ b.stage = .fresh ∧
          s ∈ (e.run earlier).subscribersOf feed := by
  intro e x listed
  obtain ⟨number, hx⟩ := exists_numbered_run (α := α) actions
  obtain ⟨hissued, -, hbounds⟩ := e.issued_ascends feed actions
  have hsub : (listed.map (·.1)).Sublist (e.issued feed actions) :=
    listed_sublist_issued feed actions
  have hascends := hissued.sublist hsub
  have hnext := e.nextOf_run_le feed actions
  rw [Nat.add_comm] at hnext
  refine ⟨⟨⟨hascends, fun s hs ↦ ?_⟩, hissued, fun n hn ↦ (hbounds n hn).2, hnext⟩,
    fun hclosed later ↦ ?_, fun n ↦ ⟨act_unsubscribe_of_not_mem, fun m before after ↦
      act_unsubscribe_of_eq hascends⟩, fun i ↦ ⟨?_, fun s hs hforgotten ↦
      ⟨hx.unread_of_forgotten hs hforgotten, listed_of_forgotten hs hforgotten⟩⟩⟩
  · exact (hbounds s.1 (hsub.subset (List.mem_map_of_mem hs))).2
  · have hclosed' := isClosed_run hclosed later
    obtain ⟨number', hx'⟩ := hx.run later
    exact ⟨hclosed', hx'.subscribersOf_of_isClosed hclosed'⟩
  · rcases x.subscribersOf_act_cases (.advance i) feed with hleft | ⟨-, -, hne, -⟩
    · exact hleft
    · cases hne

/-- While a broadcast is under way, the second of three readers goes, and a fourth one comes and
goes. At its end the feed forgets the second one only. -/
theorem listed_in_order_overlapping :
    let earlier : List (Action Nat) :=
      [.openFeed 1, .subscribe 0, .subscribe 0, .subscribe 0, .announce 0 (.added 5)]
    let later : List (Action Nat) :=
      [.advance 0, .discard 1, .advance 0, .subscribe 0, .discard 3, .advance 0]
    let actions := earlier ++ .advance 0 :: later
    let e : Exchange Nat := {}
    let x := e.run actions
    x.subscribersOf 0 = [(1, 0), (2, 1), (3, 2), (4, 3)] ∧ e.issued 0 actions = [1, 2, 3, 4] ∧
      x.nextOf 0 = 5 ∧ actions.countP (·.subscribes 0) = 4 ∧
      ((x.subscribersOf 0).map (·.1)).Pairwise (· < ·) ∧
      (x.act (.advance 0)).subscribersOf 0 = [(1, 0), (3, 2), (4, 3)] ∧
      x.isRead 1 = false ∧ x.isRead 3 = false ∧ (2, 1) ∈ (e.run earlier).subscribersOf 0 ∧
      x.act (.unsubscribe 0 7) = x ∧
      x.act (.unsubscribe 0 3) = x.updateFeed 0 (fun f ↦
        { f with subscribers := [(1, 0), (2, 1), (4, 3)] }) ∧
      ∀ next : List (Action Nat), ((x.act (.close 0)).run next).isClosed 0 = true ∧
        ((x.act (.close 0)).run next).subscribersOf 0 = [] := by
  intro earlier later actions e x
  have hlisted : x.subscribersOf 0 = [(1, 0), (2, 1), (3, 2), (4, 3)] := by decide
  have hforgotten : (x.act (.advance 0)).subscribersOf 0 = [(1, 0), (3, 2), (4, 3)] := by decide
  have hmem : (2, 1) ∈ x.subscribersOf 0 := by rw [hlisted]; decide
  have hnot : (2, 1) ∉ (x.act (.advance 0)).subscribersOf 0 := by rw [hforgotten]; decide
  obtain ⟨⟨⟨hascends, -⟩, -⟩, -, hunsubscribe, hadvance⟩ := listed_in_order actions 0
  obtain ⟨hread, -⟩ := (hadvance 0).2 (2, 1) hmem hnot
  have hclosed := (listed_in_order (actions ++ [.close 0]) 0).2.1
  rw [run_concat] at hclosed
  exact ⟨hlisted, by decide, by decide, by decide, hascends, hforgotten, hread, by decide,
    by decide, (hunsubscribe 7).1 (by decide),
    (hunsubscribe 3).2 2 [(1, 0), (2, 1)] [(4, 3)] hlisted, hclosed (by decide)⟩

end Exchange

end LiveFind
