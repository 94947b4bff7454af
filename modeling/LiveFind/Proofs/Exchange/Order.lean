import LiveFind.Proofs.Exchange.History
import Mathlib.Data.List.Nodup

/-!
# One order for all subscriptions

Where the broadcasts of a feed start one after the other, each when the one before has come to its
end (`Sequential`), a subscription gets the changes of those that start after it was made, in their
order and without a gap, up to some point: until it ends, or its reader stops to read, or the run
ends.

`Lags` compares what has come into its mailbox with what was due: it is as much from the start, and
only the change of a broadcast that is still to serve it is missing. `Abreast` says of a
subscription that its feed still has that it is not further behind than that. So the next broadcast
that starts finds it up to date or ended (`Lags.act`, `Abreast.act`), and what came is a contiguous
block of what started (`delivered_in_order`).
-/

namespace LiveFind

namespace Exchange

variable {α : Type}

/-! ### Broadcasts that start -/

/-- The broadcast of the feed that an action starts. -/
def starting (x : Exchange α) (feed : FeedId) : Action α → List (BroadcastId × Change α)
  | .advance i => (x.starts feed (.advance i)).toList.map (i, ·)
  | _ => []

/-- The broadcasts of the feed that start in a run, in order. -/
def started (x : Exchange α) (feed : FeedId) (actions : List (Action α)) :
    List (BroadcastId × Change α) :=
  noted (·.starting feed) x actions

/-- Each broadcast of the feed comes to its end before the next one starts. The last one may be
given up on its way. -/
def Sequential (x : Exchange α) (feed : FeedId) : List (Action α) → Prop
  | [] => True
  | a :: actions =>
    x.Waits feed a ∧ (x.act a).Sequential feed actions ∨ x.started feed (a :: actions) = []

instance decidableSequential (x : Exchange α) (feed : FeedId) :
    (actions : List (Action α)) → Decidable (x.Sequential feed actions)
  | [] => .isTrue trivial
  | a :: actions =>
    have := (x.act a).decidableSequential feed actions
    inferInstanceAs (Decidable (x.Waits feed a ∧ (x.act a).Sequential feed actions ∨
      x.started feed (a :: actions) = []))

variable {x : Exchange α} {feed : FeedId} {a : Action α}

theorem starting_cases (x : Exchange α) (feed : FeedId) (a : Action α) :
    x.starting feed a = [] ∨ ∃ i b, a = .advance i ∧ x.broadcasts[i]? = some b ∧
      b.stage = .fresh ∧ b.feed = feed ∧ x.starting feed a = [(i, b.change)] := by
  cases a with
  | advance i =>
    rw [starting, starts]
    cases hb : x.broadcasts[i]? with
    | none => exact .inl rfl
    | some b =>
      rw [Option.bind_some]
      split
      · rename_i hfresh
        exact .inr ⟨i, b, rfl, hb, hfresh.2, hfresh.1, rfl⟩
      · exact .inl rfl
  | _ => exact .inl rfl

theorem starting_of_fresh {i : BroadcastId} {b : Broadcast α} (hb : x.broadcasts[i]? = some b)
    (hstage : b.stage = .fresh) (hfeed : b.feed = feed) :
    x.starting feed (.advance i) = [(i, b.change)] := by
  rw [starting, starts_advance_of_fresh hb hstage, if_pos hfeed]
  rfl

theorem started_cons (x : Exchange α) (feed : FeedId) (a : Action α) (actions : List (Action α)) :
    x.started feed (a :: actions) = x.starting feed a ++ (x.act a).started feed actions :=
  rfl

theorem started_append (x : Exchange α) (feed : FeedId) (actions actions' : List (Action α)) :
    x.started feed (actions ++ actions') =
      x.started feed actions ++ (x.run actions).started feed actions' :=
  noted_append ..

/-- A broadcast that has fixed its subscriptions does not start again. -/
theorem ne_of_mem_started {i : BroadcastId} {b : Broadcast α} (hb : x.broadcasts[i]? = some b)
    (hstage : b.stage ≠ .fresh) {actions : List (Action α)} {p : BroadcastId × Change α}
    (hp : p ∈ x.started feed actions) : p.1 ≠ i := by
  induction actions generalizing x b with
  | nil => cases hp
  | cons a actions ih =>
    rw [started_cons] at hp
    rcases List.mem_append.1 hp with hp | hp
    · rcases x.starting_cases feed a with hnone | ⟨j, b₀, -, hb₀, hfresh, -, heq⟩
      · rw [hnone] at hp
        cases hp
      · rw [heq, List.mem_singleton] at hp
        rw [hp]
        rintro rfl
        rw [hb, Option.some.injEq] at hb₀
        exact hstage (hb₀ ▸ hfresh)
    · obtain ⟨b', hb', hstage'⟩ := exists_broadcast_act_of_not_fresh hb hstage a
      exact ih hb' hstage' hp

/-- A broadcast starts but once. -/
theorem nodup_started (x : Exchange α) (feed : FeedId) (actions : List (Action α)) :
    ((x.started feed actions).map (·.1)).Nodup := by
  induction actions generalizing x with
  | nil => exact .nil
  | cons a actions ih =>
    rw [started_cons]
    rcases x.starting_cases feed a with hnone | ⟨i, b, rfl, hb, -, -, heq⟩
    · rw [hnone]
      exact ih _
    · rw [heq]
      obtain ⟨b', hb', -, hstage', -⟩ := exists_broadcast_act_advance hb
      refine List.nodup_cons.2 ⟨fun hmem ↦ ?_, ih _⟩
      obtain ⟨p, hp, heq⟩ := List.mem_map.1 hmem
      exact ne_of_mem_started hb' hstage' hp heq

/-! ### Runs with one broadcast at a time -/

theorem sequential_of_started_eq_nil {actions : List (Action α)}
    (h : x.started feed actions = []) : x.Sequential feed actions := by
  cases actions with
  | nil => trivial
  | cons a actions => exact .inr h

theorem waits_of_starting_eq_nil (h : x.starting feed a = []) (i : BroadcastId)
    (ha : a = .advance i) : x.Waits feed (.advance i) := by
  subst ha
  intro b hb hstage hfeed
  rw [starting_of_fresh hb hstage hfeed] at h
  cases h

/-- Where broadcasts start one after the other, one of the feed sends at most. -/
theorem Sequential.drop {earlier later : List (Action α)}
    (h : x.Sequential feed (earlier ++ later)) (hsolo : x.Solo feed) :
    (x.run earlier).Solo feed ∧ (x.run earlier).Sequential feed later := by
  induction earlier generalizing x with
  | nil => exact ⟨hsolo, h⟩
  | cons a earlier ih =>
    rcases h with ⟨hwaits, hrest⟩ | hnone
    · exact ih hrest (hsolo.act hwaits)
    · obtain ⟨hstarting, hrest⟩ := List.append_eq_nil_iff.1 hnone
      exact ih (sequential_of_started_eq_nil hrest)
        (hsolo.act_of_advance (waits_of_starting_eq_nil hstarting))

/-! ### What comes into the mailbox of a subscription -/

variable {number : MailboxId → Nat} {s : Nat × MailboxId} {due got : List (BroadcastId × Change α)}

/-- Into the mailbox of a subscription comes the change of a broadcast whose turn it is to serve
it. -/
theorem arriving_cases (hx : x.Numbered number) (hs : x.Belongs number feed s) (a : Action α) :
    x.arriving s.2 a = [] ∨ ∃ i b rest, a = .advance i ∧ x.broadcasts[i]? = some b ∧
      b.stage = .sending ∧ b.targets = s :: rest ∧ x.arriving s.2 a = [(i, b.change)] := by
  cases a with
  | advance i =>
    rcases x.queued_advance_cases i s.2 with
      ⟨-, hnone⟩ | ⟨b, n, rest, hb, hstage, htargets, -, -, hnew⟩
    · exact .inl hnone
    · have heq : (n, s.2) = s := hx.eq_of_mailbox hs hb (htargets ▸ List.mem_cons_self) rfl
      exact .inr ⟨i, b, rest, rfl, hb, hstage, heq ▸ htargets, hnew⟩
  | _ => exact .inl rfl

/-- A broadcast that is to serve a subscription was so before the action, or starts by it. -/
theorem sender_cases (hx : x.Numbered number) (hs : x.Belongs number feed s) {j : BroadcastId}
    {b' : Broadcast α} (hb' : (x.act a).broadcasts[j]? = some b') (hstage : b'.stage = .sending)
    (hmem : s ∈ b'.targets) :
    ∃ b, x.broadcasts[j]? = some b ∧ b'.change = b.change ∧
      ((b.stage = .sending ∧ s ∈ b.targets ∧ (a = .advance j → x.arriving s.2 a = [])) ∨
        (a = .advance j ∧ b.stage = .fresh ∧ b.feed = feed ∧ s ∈ x.subscribersOf feed)) := by
  cases hb : x.broadcasts[j]? with
  | none =>
    obtain ⟨i, c, rfl⟩ := eq_of_broadcast_new hb hb'
    cases hstage
  | some b =>
    refine ⟨b, rfl, ?_⟩
    by_cases ha : a = .advance j
    · subst ha
      have hnone : (x.advance j).2.2.queued s.2 = x.queued s.2 →
          x.arriving s.2 (.advance j) = [] := arriving_eq_nil
      have hthis : ∀ {b₀}, x.broadcasts[j]? = some b₀ → b₀ = b := fun hb₀ ↦
        Option.some.inj (hb₀.symm.trans hb)
      have hafter : ∀ {g : Broadcast α → Broadcast α},
          (x.broadcasts.modify j g)[j]? = some b' → b' = g b := fun h ↦ by
        rw [List.getElem?_modify_eq, hb] at h
        exact (Option.some.inj h).symm
      have hadvances := x.advances_advance j
      rw [act] at hb'
      generalize (x.advance j).2.2 = x' at hadvances hnone hb'
      cases hadvances with
      | idle =>
        obtain rfl := hthis hb'
        exact ⟨rfl, .inl ⟨hstage, hmem, fun _ ↦ hnone rfl⟩⟩
      | await hb₀ _ m =>
        obtain rfl := hthis hb'
        exact ⟨rfl, .inl ⟨hstage, hmem, fun _ ↦
          hnone (queued_updateMailbox fun box _ ↦ box.queue_await j)⟩⟩
      | @fix b₀ hb₀ hfresh =>
        obtain rfl := hthis hb₀
        obtain rfl := hafter hb'
        have hfeed := ((hx.subscribersOf b₀.feed).2 s hmem).1
        rw [hs.1, Option.some.injEq] at hfeed
        exact ⟨rfl, .inr ⟨rfl, hfresh, hfeed.symm, hfeed ▸ hmem⟩⟩
      | @pass b₀ n m rest hb₀ hsending htargets =>
        obtain rfl := hthis hb₀
        obtain rfl := hafter hb'
        exact ⟨rfl, .inl ⟨hsending, htargets ▸ List.mem_cons_of_mem _ hmem,
          fun _ ↦ hnone (queued_updateMailbox fun _ _ ↦ rfl)⟩⟩
      | @serve b₀ n m rest hb₀ hsending htargets =>
        obtain rfl := hthis hb₀
        obtain rfl := hafter hb'
        -- a subscription that is still to be served is not the one whose turn it is
        have hm : m ≠ s.2 := fun hm ↦ by
          have heq := hx.eq_of_mailbox hs hb (htargets ▸ List.mem_cons_self) hm
          have hnodup := (hx.targets hb).1
          rw [htargets, heq] at hnodup
          exact (List.nodup_cons.1 hnodup).1 hmem
        exact ⟨rfl, .inl ⟨hsending, htargets ▸ List.mem_cons_of_mem _ hmem,
          fun _ ↦ hnone (queued_updateMailbox fun _ h ↦ absurd h hm)⟩⟩
      | finish hb₀ =>
        obtain rfl := hthis hb₀
        obtain rfl := hafter hb'
        cases hstage
    · obtain ⟨b₁, hb₁, hsame⟩ := exists_broadcast_act_of_ne ha hb
      rw [hb', Option.some.injEq] at hb₁
      subst hb₁
      rcases hsame with rfl | ⟨-, rfl⟩
      · exact ⟨rfl, .inl ⟨hstage, hmem, fun h ↦ absurd h ha⟩⟩
      · cases hstage

/-- What has come into the mailbox of a subscription is what was due, up to some point, and where a
broadcast is still to serve the subscription only its change is missing. -/
structure Lags (x : Exchange α) (s : Nat × MailboxId) (due got : List (BroadcastId × Change α)) :
    Prop where
  begun : got <+: due
  pending : ∀ {i : BroadcastId} {b : Broadcast α}, x.broadcasts[i]? = some b →
    b.stage = .sending → s ∈ b.targets → due = got ++ [(i, b.change)]

/-- A subscription that its feed still has got all that was due, or the broadcast that sends is
still to serve it or has found its reader gone. -/
def Abreast (x : Exchange α) (feed : FeedId) (s : Nat × MailboxId)
    (due got : List (BroadcastId × Change α)) : Prop :=
  s ∈ x.subscribersOf feed → due = got ∨ ∃ (i : BroadcastId) (b : Broadcast α),
    x.broadcasts[i]? = some b ∧ b.stage = .sending ∧ b.feed = feed ∧ (s ∈ b.targets ∨ s.1 ∈ b.gone)

/-- What is due grows by the broadcast that starts, which finds the subscription up to date or
ended. -/
theorem Lags.act (hl : x.Lags s due got) (hx : x.Numbered number) (hs : x.Belongs number feed s)
    (hsolo : x.Solo feed)
    (hstart : x.starting feed a ≠ [] → x.Idle s ∧ (s ∈ x.subscribersOf feed → due = got)) :
    (x.act a).Lags s (due ++ x.starting feed a) (got ++ x.arriving s.2 a) := by
  refine ⟨?_, fun {j b'} hb' hstage hmem ↦ ?_⟩
  · rcases arriving_cases hx hs a with hnone | ⟨i, b, rest, -, hb, hstage, htargets, heq⟩
    · rw [hnone, List.append_nil]
      exact hl.begun.trans (List.prefix_append _ _)
    · rw [heq, ← hl.pending hb hstage (htargets ▸ List.mem_cons_self)]
      exact List.prefix_append _ _
  · obtain ⟨b, hb, hchange, ⟨hsending, hold, hquiet⟩ | ⟨rfl, hfresh, hfeed, hlisted⟩⟩ :=
      sender_cases hx hs hb' hstage hmem
    · -- no other broadcast starts, and none but this one could serve the subscription
      have hstarting : x.starting feed a = [] := by
        by_contra hne
        exact (hstart hne).1 j b hb hsending hold
      have harriving : x.arriving s.2 a = [] := by
        rcases arriving_cases hx hs a with hnone | ⟨i, b₀, rest, rfl, hb₀, hsending₀, htargets, -⟩
        · exact hnone
        · have hmem₀ : s ∈ b₀.targets := htargets ▸ List.mem_cons_self
          exact hquiet (congrArg _ (hsolo i j b₀ b hb₀ hb hsending₀ hsending
            (hx.feed_eq_of_mem hs hb₀ hmem₀) (hx.feed_eq_of_mem hs hb hold)))
      rw [hstarting, harriving, List.append_nil, List.append_nil, hchange]
      exact hl.pending hb hsending hold
    · have hstarting := starting_of_fresh hb hfresh hfeed
      have harriving : x.arriving s.2 (.advance j) = [] := by
        rcases arriving_cases hx hs (.advance j) with hnone | ⟨i, b₀, rest, heq, hb₀, hsending₀, -⟩
        · exact hnone
        · obtain rfl := Action.advance.inj heq
          rw [hb, Option.some.injEq] at hb₀
          rw [← hb₀, hfresh] at hsending₀
          cases hsending₀
      rw [hstarting, harriving, List.append_nil, hchange,
        (hstart (hstarting ▸ List.cons_ne_nil _ _)).2 hlisted]

/-- Where a broadcast of the feed is about to start, the subscription is up to date or ended. -/
theorem Abreast.eq_of_starting (hk : x.Abreast feed s due got) (hx : x.Numbered number)
    (hs : x.Belongs number feed s) (hwaits : x.Waits feed a) (hne : x.starting feed a ≠ []) :
    x.Idle s ∧ (s ∈ x.subscribersOf feed → due = got) := by
  rcases x.starting_cases feed a with hnone | ⟨i, b, rfl, hb, hfresh, hfeed, -⟩
  · exact absurd hnone hne
  · refine ⟨idle_of_waits hx hs hb hfresh hfeed hwaits, fun hmem ↦ ?_⟩
    rcases hk hmem with heq | ⟨j, b', hb', hsending, hfeed', -⟩
    · exact heq
    · exact absurd hsending (hwaits b hb hfresh hfeed b' (List.mem_of_getElem? hb') hfeed')

/-- A broadcast that is to serve a subscription, or has found its reader gone, is so still, unless
its step serves the subscription or ends it. -/
theorem exists_sender_act (hwaits : x.Waits feed a) {i : BroadcastId} {b : Broadcast α}
    (hb : x.broadcasts[i]? = some b) (hsending : b.stage = .sending) (hfeed : b.feed = feed)
    (hs : s ∈ b.targets ∨ s.1 ∈ b.gone) (harriving : x.arriving s.2 a = [])
    (hmem : s ∈ (x.act a).subscribersOf feed) :
    ∃ b', (x.act a).broadcasts[i]? = some b' ∧ b'.stage = .sending ∧ b'.feed = feed ∧
      (s ∈ b'.targets ∨ s.1 ∈ b'.gone) := by
  by_cases ha : a = .advance i
  · subst ha
    have hthis : ∀ {b₀}, x.broadcasts[i]? = some b₀ → b₀ = b := fun hb₀ ↦
      Option.some.inj (hb₀.symm.trans hb)
    have hnew : ∀ {c}, (x.advance i).2.2.queued s.2 ≠ x.queued s.2 ++ [c] := fun h ↦ by
      rw [arriving_of_queued_eq h] at harriving
      cases harriving
    have hadvances := x.advances_advance i
    rw [act] at hmem ⊢
    generalize (x.advance i).2.2 = x' at hadvances hnew hmem ⊢
    cases hadvances with
    | idle | await => exact ⟨b, hb, hsending, hfeed, hs⟩
    | fix hb₀ hfresh =>
      rw [hthis hb₀, hsending] at hfresh
      cases hfresh
    | @pass b₀ n m rest hb₀ _ htargets =>
      obtain rfl := hthis hb₀
      refine ⟨_, getElem?_updateBroadcast hb _, hsending, hfeed, ?_⟩
      rw [htargets] at hs
      rcases hs with hs | hs
      · rcases List.mem_cons.1 hs with rfl | hs
        · exact .inr (List.mem_append_right _ (List.mem_singleton_self _))
        · exact .inl hs
      · exact .inr (List.mem_append_left _ hs)
    | @serve b₀ n m rest hb₀ _ htargets hread =>
      obtain rfl := hthis hb₀
      refine ⟨_, getElem?_updateBroadcast hb _, hsending, hfeed, ?_⟩
      rw [htargets] at hs
      rcases hs with hs | hs
      · rcases List.mem_cons.1 hs with rfl | hs
        · exact absurd (queued_push hread i b₀.change) hnew
        · exact .inl hs
      · exact .inr hs
    | @finish b₀ hb₀ _ htargets =>
      obtain rfl := hthis hb₀
      rw [htargets] at hs
      rcases hs with hs | hs
      · cases hs
      · subst hfeed
        exact absurd hmem (not_mem_subscribersOf_of_gone hs)
  · obtain ⟨b', hb', rfl | ⟨rfl, -⟩⟩ := exists_broadcast_act_of_ne ha hb
    · exact ⟨b', hb', hsending, hfeed, hs⟩
    · exact absurd hsending (hwaits b hb hfeed)

/-- A subscription that its feed has is never further behind than the broadcast that sends. -/
theorem Abreast.act (hk : x.Abreast feed s due got) (hl : x.Lags s due got)
    (hx : x.Numbered number) (hs : x.Belongs number feed s) (hwaits : x.Waits feed a) :
    (x.act a).Abreast feed s (due ++ x.starting feed a) (got ++ x.arriving s.2 a) := by
  intro hmem'
  have hmem : s ∈ x.subscribersOf feed := by
    rcases mem_subscribersOf_act hmem' with hmem | hnew
    · exact hmem
    · exact absurd hnew (ne_length_of_feedOf hs.1)
  rcases x.starting_cases feed a with hstarting | ⟨i, b, rfl, hb, hfresh, rfl, -⟩
  · rw [hstarting, List.append_nil]
    rcases arriving_cases hx hs a with hnone | ⟨i, b, rest, -, hb, hsending, htargets, heq⟩
    · rw [hnone, List.append_nil]
      refine (hk hmem).imp_right fun ⟨i, b, hb, hsending, hfeed, hor⟩ ↦ ⟨i, ?_⟩
      exact exists_sender_act hwaits hb hsending hfeed hor hnone hmem'
    · rw [heq]
      exact .inl (hl.pending hb hsending (htargets ▸ List.mem_cons_self))
  · -- the broadcast that starts is to serve the subscription
    exact .inr ⟨i, _, getElem?_act_advance_of_fresh hb hfresh, rfl, rfl, .inl hmem⟩

/-! ### Runs after a subscription -/

theorem Numbered.act_belongs (hx : x.Numbered number) (hs : x.Belongs number feed s)
    (a : Action α) : ∃ number', (x.act a).Numbered number' ∧ (x.act a).Belongs number' feed s := by
  obtain ⟨number', hx', hsame⟩ := hx.act a
  exact ⟨number', hx', feedOf_act a hs.1, hs.2.trans (hsame _ _ hs.1).symm⟩

theorem Numbered.run_belongs (hx : x.Numbered number) (hs : x.Belongs number feed s)
    (actions : List (Action α)) :
    ∃ number', (x.run actions).Numbered number' ∧ (x.run actions).Belongs number' feed s := by
  induction actions generalizing x number with
  | nil => exact ⟨number, hx, hs⟩
  | cons a actions ih =>
    obtain ⟨number', hx', hs'⟩ := hx.act_belongs hs a
    exact ih hx' hs'

/-- Where no more broadcasts start, a subscription gets at most what is due already. -/
theorem Lags.prefix_of_started_eq_nil (hl : x.Lags s due got) (hx : x.Numbered number)
    (hs : x.Belongs number feed s) (hsolo : x.Solo feed) {actions : List (Action α)}
    (hnone : x.started feed actions = []) : got ++ x.arrivals s.2 actions <+: due := by
  induction actions generalizing x number got with
  | nil => exact (List.append_nil got).symm ▸ hl.begun
  | cons a actions ih =>
    obtain ⟨hstarting, hrest⟩ := List.append_eq_nil_iff.1 (x.started_cons feed a actions ▸ hnone)
    obtain ⟨number', hx', hs'⟩ := hx.act_belongs hs a
    have hl' := hl.act hx hs hsolo fun hne ↦ absurd hstarting hne
    rw [hstarting, List.append_nil] at hl'
    rw [arrivals_cons, ← List.append_assoc]
    exact ih hl' hx' hs' (hsolo.act_of_advance (waits_of_starting_eq_nil hstarting)) hrest

/-- Where broadcasts start one after the other, what a subscription gets is what is due, up to some
point. -/
theorem Lags.prefix_run (hl : x.Lags s due got) (hk : x.Abreast feed s due got)
    (hx : x.Numbered number) (hs : x.Belongs number feed s) (hsolo : x.Solo feed)
    {actions : List (Action α)} (hseq : x.Sequential feed actions) :
    got ++ x.arrivals s.2 actions <+: due ++ x.started feed actions := by
  induction actions generalizing x number due got with
  | nil =>
    rw [show x.arrivals s.2 [] = [] from rfl, show x.started feed [] = [] from rfl,
      List.append_nil, List.append_nil]
    exact hl.begun
  | cons a actions ih =>
    rcases hseq with ⟨hwaits, hrest⟩ | hnone
    · obtain ⟨number', hx', hs'⟩ := hx.act_belongs hs a
      rw [arrivals_cons, started_cons, ← List.append_assoc, ← List.append_assoc]
      exact ih (hl.act hx hs hsolo (hk.eq_of_starting hx hs hwaits)) (hk.act hl hx hs hwaits)
        hx' hs' (hsolo.act hwaits) hrest
    · rw [hnone, List.append_nil]
      exact hl.prefix_of_started_eq_nil hx hs hsolo hnone

/-- The run makes this subscription of the feed by the action that follows the first ones. -/
def Subscribes (feed : FeedId) (actions earlier : List (Action α)) (s : Subscription) : Prop :=
  (∃ later, actions = earlier ++ .subscribe feed :: later) ∧
    ((({} : Exchange α).run earlier).subscribe feed).1 = .ok s

/-- What a subscription gets begins with the first broadcast that starts after it was made, and
leaves none out up to where it stops. -/
theorem Subscribes.arrivals_prefix {actions earlier : List (Action α)} {s : Subscription}
    (hs : Subscribes feed actions earlier s)
    (hseq : ({} : Exchange α).Sequential feed actions) :
    ({} : Exchange α).arrivals s.mailbox actions <+:
      (({} : Exchange α).started feed actions).drop
        (({} : Exchange α).started feed earlier).length := by
  obtain ⟨⟨later, rfl⟩, hok⟩ := hs
  rw [List.append_cons] at hseq
  obtain ⟨hsolo, hrest⟩ := hseq.drop (solo_empty feed)
  obtain ⟨number, hx⟩ := exists_numbered_run (α := α) earlier
  rw [run_concat] at hsolo hrest
  rw [started_append, List.drop_left, started_cons, arrivals, noted_append, ← arrivals]
  generalize hx₁ : ({} : Exchange α).run earlier = x₁ at *
  rcases x₁.subscribe_cases feed with ⟨fault, herror, -⟩ | ⟨f, hf, hopen, heq⟩
  · rw [herror] at hok
    cases hok
  · rw [heq, Except.ok.injEq] at hok
    subst hok
    have hnone : ({} : Exchange α).arrivals x₁.mailboxes.length earlier = [] := by
      refine arrivals_eq_nil_of_feedOf ?_
      rw [hx₁, feedOf, List.getElem?_eq_none (Nat.le_refl _)]
      rfl
    have hact : x₁.act (.subscribe feed) = x₁.withSubscription feed f := by rw [act, heq]
    rw [hact] at hsolo hrest
    have hl : (x₁.withSubscription feed f).Lags (f.nextNumber, x₁.mailboxes.length) [] [] := by
      refine ⟨List.prefix_rfl, fun hb _ hmem ↦ ?_⟩
      exact absurd rfl (ne_length_of_feedOf ((hx.targets hb).2 _ hmem).1)
    have hprefix := hl.prefix_run (fun _ ↦ .inl rfl) (hx.withSubscription hf hopen)
      (x₁.belongs_withSubscription number feed f) hsolo hrest
    rw [hnone, noted, hact]
    exact hprefix

/-- What a subscription gets is a contiguous block of the broadcasts that start. -/
theorem Subscribes.exists_block {actions earlier : List (Action α)} {s : Subscription}
    (hs : Subscribes feed actions earlier s)
    (hseq : ({} : Exchange α).Sequential feed actions) :
    ∃ j, (({} : Exchange α).started feed earlier).length ≤ j ∧
      j ≤ (({} : Exchange α).started feed actions).length ∧
      ({} : Exchange α).arrivals s.mailbox actions =
        ((({} : Exchange α).started feed actions).take j).drop
          (({} : Exchange α).started feed earlier).length := by
  have hprefix := hs.arrivals_prefix hseq
  have hle := hprefix.length_le
  have heq := List.prefix_iff_eq_take.1 hprefix
  have hstarted : (({} : Exchange α).started feed earlier).length ≤
      (({} : Exchange α).started feed actions).length := by
    obtain ⟨⟨later, rfl⟩, -⟩ := hs
    rw [started_append, List.length_append]
    exact Nat.le_add_right _ _
  rw [List.take_drop] at heq
  rw [List.length_drop] at hle
  exact ⟨_, Nat.le_add_right _ _, by omega, heq⟩

/-! ### What two subscriptions share -/

/-- What of a list is also of another one, told by the broadcasts. -/
def shared (l l' : List (BroadcastId × Change α)) : List (BroadcastId × Change α) :=
  l.filter fun p ↦ (l'.map (·.1)).contains p.1

/-- From a list of different broadcasts, those of a part of it are that part. -/
theorem shared_eq_of_sublist {l l' : List (BroadcastId × Change α)} (hl : (l.map (·.1)).Nodup)
    (h : l'.Sublist l) : shared l l' = l' := by
  induction h with
  | slnil => rfl
  | @cons l' l p h ih =>
    obtain ⟨hp, hl⟩ := List.nodup_cons.1 hl
    have hnot : p.1 ∉ l'.map (·.1) := fun hmem ↦ hp ((h.map _).subset hmem)
    rw [shared, List.filter_cons, if_neg (by simpa using hnot)]
    exact ih hl
  | @cons_cons l' l p h ih =>
    obtain ⟨hp, hl⟩ := List.nodup_cons.1 hl
    rw [shared, List.filter_cons, if_pos (by simp)]
    refine congrArg _ ((List.filter_congr fun q hq ↦ ?_).trans (ih hl))
    have hne : q.1 ≠ p.1 := fun heq ↦ hp (List.mem_map.2 ⟨q, hq, heq⟩)
    rw [List.map_cons, List.contains_cons, beq_eq_false_iff_ne.2 hne, Bool.false_or]

/-- Two parts of a list of different broadcasts share the same in the same order. -/
theorem shared_comm {e l l' : List (BroadcastId × Change α)} (he : (e.map (·.1)).Nodup)
    (h : l.Sublist e) (h' : l'.Sublist e) : shared l l' = shared l' l := by
  calc
    shared l l' = shared (shared e l) l' := by rw [shared_eq_of_sublist he h]
    _ = shared (shared e l') l := by
      rw [shared, shared, shared, shared, List.filter_filter, List.filter_filter]
      exact List.filter_congr fun p _ ↦ Bool.and_comm _ _
    _ = shared l' l := by rw [shared_eq_of_sublist he h']

/-! ### Every run -/

/-- If the broadcasts of a feed start one after the other, each subscription gets a contiguous block
of them in the order in which they start, which begins with the first that starts after it was made.
So what two subscriptions share they get in the same order. -/
theorem delivered_in_order {feed : FeedId} {actions : List (Action α)}
    (hseq : ({} : Exchange α).Sequential feed actions) :
    let e : Exchange α := {}
    ((e.started feed actions).map (·.1)).Nodup ∧
    (∀ earlier s, Subscribes feed actions earlier s →
      ∃ j, (e.started feed earlier).length ≤ j ∧ j ≤ (e.started feed actions).length ∧
        e.arrivals s.mailbox actions =
          ((e.started feed actions).take j).drop (e.started feed earlier).length) ∧
    ∀ earlier earlier' s s', Subscribes feed actions earlier s →
      Subscribes feed actions earlier' s' →
        shared (e.arrivals s.mailbox actions) (e.arrivals s'.mailbox actions) =
          shared (e.arrivals s'.mailbox actions) (e.arrivals s.mailbox actions) := by
  intro e
  have hnodup := e.nodup_started feed actions
  have hsublist : ∀ {earlier s}, Subscribes feed actions earlier s →
      (e.arrivals s.mailbox actions).Sublist (e.started feed actions) := fun hs ↦
    (hs.arrivals_prefix hseq).sublist.trans (List.drop_sublist _ _)
  exact ⟨hnodup, fun earlier s hs ↦ hs.exists_block hseq, fun earlier earlier' s s' hs hs' ↦
    shared_comm hnodup (hsublist hs) (hsublist hs')⟩

/-- Three broadcasts start one after the other. The first subscription ends while the second
broadcast waits for its reader, and the second one comes while the first broadcast sends, so they
share the second broadcast. -/
theorem delivered_in_order_late :
    let earlier : List (Action Nat) := [.openFeed 1]
    let earlier' : List (Action Nat) :=
      earlier ++ [.subscribe 0, .announce 0 (.added 5), .announce 0 (.added 6),
        .announce 0 (.added 7), .advance 0]
    let actions : List (Action Nat) :=
      earlier' ++ [.subscribe 0, .advance 0, .advance 0, .advance 1, .advance 1, .unsubscribe 0 1,
        .receive 0, .advance 1, .advance 1, .advance 1, .receive 1, .advance 2, .advance 2]
    let e : Exchange Nat := {}
    e.Sequential 0 actions ∧ Subscribes 0 actions earlier ⟨1, 0⟩ ∧
      Subscribes 0 actions earlier' ⟨2, 1⟩ ∧
      e.started 0 actions = [(0, .added 5), (1, .added 6), (2, .added 7)] ∧
      (∃ j, (e.started 0 earlier').length ≤ j ∧ j ≤ (e.started 0 actions).length ∧
        e.arrivals 1 actions =
          ((e.started 0 actions).take j).drop (e.started 0 earlier').length) ∧
      e.arrivals 0 actions = [(0, .added 5), (1, .added 6)] ∧
      e.arrivals 1 actions = [(1, .added 6), (2, .added 7)] ∧
      shared (e.arrivals 0 actions) (e.arrivals 1 actions) =
        shared (e.arrivals 1 actions) (e.arrivals 0 actions) := by
  intro earlier earlier' actions e
  have hseq : e.Sequential 0 actions := by decide
  have hs : Subscribes 0 actions earlier ⟨1, 0⟩ := ⟨⟨_, rfl⟩, by decide⟩
  have hs' : Subscribes 0 actions earlier' ⟨2, 1⟩ := ⟨⟨_, rfl⟩, by decide⟩
  obtain ⟨-, hblock, hshared⟩ := delivered_in_order hseq
  have hstarted : e.started 0 actions = [(0, .added 5), (1, .added 6), (2, .added 7)] := by decide
  have harrivals : e.arrivals 0 actions = [(0, .added 5), (1, .added 6)] := by decide
  have harrivals' : e.arrivals 1 actions = [(1, .added 6), (2, .added 7)] := by decide
  exact ⟨hseq, hs, hs', hstarted, hblock earlier' ⟨2, 1⟩ hs', harrivals, harrivals',
    hshared earlier earlier' ⟨1, 0⟩ ⟨2, 1⟩ hs hs'⟩

end Exchange

end LiveFind
