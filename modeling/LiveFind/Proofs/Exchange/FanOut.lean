import LiveFind.Proofs.Exchange.History
import Mathlib.Data.List.Induction
import Mathlib.Data.List.Nodup

/-!
# Fan-out

A broadcast fixes the subscriptions of its feed (`fixed`) and then takes them one after the other:
it puts its change into the mailbox if somebody reads it, and passes the subscription over if not
(`attempts`). Meanwhile others may subscribe, unsubscribe, read, stop to read, close the feed, and
send broadcasts of their own.

`Served` says what a broadcast has done so far. It is kept by every action (`Served.act`): only the
steps of the broadcast itself add to what it did, and nobody else can bring a subscription back or
take one off its list. So each of the subscriptions it fixed gets the change once, or is gone from
the feed in the end, and nobody else gets it (`fanned_out`).
-/

namespace LiveFind

namespace Exchange

variable {α : Type}

/-- The subscriptions that a broadcast is still to serve. -/
def targetsOf (x : Exchange α) (i : BroadcastId) : List (Nat × MailboxId) :=
  (x.broadcasts[i]?).elim [] (·.targets)

/-! ### What a broadcast does -/

/-- The subscriptions that a broadcast fixes by an action: those of its feed, if it is its first
step. -/
def fixing (x : Exchange α) (i : BroadcastId) : Action α → List (Nat × MailboxId)
  | .advance j => (x.broadcasts[j]?).elim [] fun b ↦
      if j = i ∧ b.stage = .fresh then x.subscribersOf b.feed else []
  | _ => []

/-- The subscriptions that a broadcast has fixed in a run. -/
def fixed (x : Exchange α) (i : BroadcastId) (actions : List (Action α)) :
    List (Nat × MailboxId) :=
  noted (·.fixing i) x actions

/-- The subscriptions that a broadcast gets done with by an action: those that its step takes from
the front of its list, and whether somebody read their mailboxes then. -/
def attempting (x : Exchange α) (i : BroadcastId) : Action α → List ((Nat × MailboxId) × Bool)
  | .advance j =>
    if j = i then
      ((x.targetsOf i).take ((x.targetsOf i).length - ((x.advance j).2.2.targetsOf i).length)).map
        fun s ↦ (s, x.isRead s.2)
    else []
  | _ => []

/-- The subscriptions that a broadcast got done with in a run, and whether somebody read their
mailboxes then. -/
def attempts (x : Exchange α) (i : BroadcastId) (actions : List (Action α)) :
    List ((Nat × MailboxId) × Bool) :=
  noted (·.attempting i) x actions

/-- What a broadcast has put into a mailbox in a run. -/
def arrivalsOf (x : Exchange α) (i : BroadcastId) (m : MailboxId) (actions : List (Action α)) :
    List (BroadcastId × Change α) :=
  (x.arrivals m actions).filter (·.1 == i)

variable {x : Exchange α} {i : BroadcastId} {b : Broadcast α}

theorem targetsOf_of_some (hb : x.broadcasts[i]? = some b) : x.targetsOf i = b.targets := by
  rw [targetsOf, hb, Option.elim_some]

theorem fixing_of_fresh (hb : x.broadcasts[i]? = some b) (hstage : b.stage = .fresh) :
    x.fixing i (.advance i) = x.subscribersOf b.feed := by
  rw [fixing, hb, Option.elim_some, if_pos ⟨rfl, hstage⟩]

theorem fixing_of_not_fresh (h : ∀ b, x.broadcasts[i]? = some b → b.stage ≠ .fresh) :
    x.fixing i (.advance i) = [] := by
  rw [fixing]
  cases hb : x.broadcasts[i]? with
  | none => rfl
  | some b => exact if_neg fun hfresh ↦ h b hb hfresh.2

theorem attempting_of_targetsOf {l : List (Nat × MailboxId)}
    (h : x.targetsOf i = l ++ (x.advance i).2.2.targetsOf i) :
    x.attempting i (.advance i) = l.map fun s ↦ (s, x.isRead s.2) := by
  rw [attempting, if_pos rfl]
  generalize (x.advance i).2.2.targetsOf i = rest at h ⊢
  rw [h, List.length_append, Nat.add_sub_cancel, List.take_left]

theorem attempting_of_targetsOf_eq_nil (h : x.targetsOf i = []) :
    x.attempting i (.advance i) = [] := by
  rw [attempting, if_pos rfl, h, List.take_nil, List.map_nil]

/-- What other actions than the steps of a broadcast do is not noted for it. -/
theorem noted_of_ne {a : Action α} (ha : a ≠ .advance i) :
    x.fixing i a = [] ∧ x.attempting i a = [] ∧
      ∀ m, (x.arriving m a).filter (·.1 == i) = [] := by
  cases a with
  | advance j =>
    have hj : j ≠ i := fun h ↦ ha (h ▸ rfl)
    refine ⟨?_, if_neg hj, fun m ↦ ?_⟩
    · rw [fixing]
      cases x.broadcasts[j]? with
      | none => rfl
      | some b => exact if_neg fun h ↦ hj h.1
    · rw [arriving, List.filter_eq_nil_iff]
      intro p hp
      obtain ⟨c, -, rfl⟩ := List.mem_map.1 hp
      simpa using hj
  | _ => exact ⟨rfl, rfl, fun _ ↦ rfl⟩

/-! ### What a broadcast has done so far -/

/-- What the attempts of a broadcast put into a mailbox. -/
def handed (i : BroadcastId) (c : Change α) (tried : List ((Nat × MailboxId) × Bool))
    (m : MailboxId) : List (BroadcastId × Change α) :=
  (tried.filter fun p ↦ p.2 && p.1.2 == m).map fun _ ↦ (i, c)

theorem handed_concat (i : BroadcastId) (c : Change α) (tried : List ((Nat × MailboxId) × Bool))
    (s : Nat × MailboxId) (read : Bool) (m : MailboxId) :
    handed i c (tried ++ [(s, read)]) m =
      handed i c tried m ++ if read && s.2 == m then [(i, c)] else [] := by
  rw [handed, List.filter_append, List.map_append, List.filter_cons, List.filter_nil]
  congr 1
  split <;> rfl

/-- What a broadcast has done so far: whom it fixed, whom it tried to serve, and what came of it.
The subscriptions it fixed are those it tried and those it is still to serve, unless it was given
up. It counts those who read and lists the others, and in the end the feed has none of the others
any more. -/
structure Served (x : Exchange α) (i : BroadcastId) (b : Broadcast α)
    (fixed : List (Nat × MailboxId)) (tried : List ((Nat × MailboxId) × Bool))
    (came : MailboxId → List (BroadcastId × Change α)) : Prop where
  here : x.broadcasts[i]? = some b
  fresh : b.stage = .fresh → fixed = []
  split : b.stage ≠ .abandoned → fixed = tried.map (·.1) ++ b.targets
  begun : tried.map (·.1) <+: fixed
  finished : b.stage = .done → b.targets = []
  delivered : b.delivered = (tried.filter (·.2)).length
  gone : b.gone = (tried.filter (!·.2)).map (·.1.1)
  known : ∀ s ∈ fixed, x.feedOf s.2 = some b.feed
  nodup : (fixed.map (·.2)).Nodup
  came : ∀ m, came m = handed i b.change tried m
  pruned : b.stage = .done → ∀ s, (s, false) ∈ tried → s ∉ x.subscribersOf b.feed

variable {fixed : List (Nat × MailboxId)} {tried : List ((Nat × MailboxId) × Bool)}
  {came : MailboxId → List (BroadcastId × Change α)} {number : MailboxId → Nat}

theorem Served.mem_fixed (hs : x.Served i b fixed tried came) {s : Nat × MailboxId} {read : Bool}
    (hp : (s, read) ∈ tried) : s ∈ fixed :=
  hs.begun.subset (List.mem_map.2 ⟨_, hp, rfl⟩)

theorem Served.nil_of_fresh (hs : x.Served i b fixed tried came) (hstage : b.stage = .fresh) :
    fixed = [] ∧ tried = [] ∧ b.targets = [] := by
  have hsplit := hs.split (by rw [hstage]; exact Stage.noConfusion)
  rw [hs.fresh hstage] at hsplit
  obtain ⟨htried, htargets⟩ := List.append_eq_nil_iff.1 hsplit.symm
  exact ⟨hs.fresh hstage, List.map_eq_nil_iff.1 htried, htargets⟩

/-- A new broadcast has done nothing. -/
theorem served_new {feed : FeedId} {c : Change α}
    (hb : x.broadcasts[i]? = some { feed, change := c }) :
    x.Served i { feed, change := c } [] [] fun _ ↦ [] where
  here := hb
  fresh _ := rfl
  split _ := rfl
  begun := List.prefix_rfl
  finished _ := rfl
  delivered := rfl
  gone := rfl
  known s hs := by cases hs
  nodup := .nil
  came _ := rfl
  pruned h := by cases h

/-- What is no step of the broadcast may give it up, and brings no subscription back. -/
theorem Served.frame (hs : x.Served i b fixed tried came) {x' : Exchange α} {b' : Broadcast α}
    (hb' : x'.broadcasts[i]? = some b')
    (hsame : b' = b ∨ b' = { b with stage := .abandoned, targets := [] })
    (hfeed : ∀ {m feed}, x.feedOf m = some feed → x'.feedOf m = some feed)
    (hsubscribers : ∀ s ∈ x'.subscribersOf b.feed,
      s ∈ x.subscribersOf b.feed ∨ s.2 = x.mailboxes.length) :
    x'.Served i b' fixed tried came := by
  rcases hsame with rfl | rfl
  · refine ⟨hb', hs.fresh, hs.split, hs.begun, hs.finished, hs.delivered, hs.gone,
      fun s hmem ↦ hfeed (hs.known s hmem), hs.nodup, hs.came, fun hdone s hp hmem ↦ ?_⟩
    rcases hsubscribers s hmem with hold | hnew
    · exact hs.pruned hdone s hp hold
    · exact ne_length_of_feedOf (hs.known s (hs.mem_fixed hp)) hnew
  · exact ⟨hb', nofun, fun h ↦ absurd rfl h, hs.begun, nofun, hs.delivered, hs.gone,
      fun s hmem ↦ hfeed (hs.known s hmem), hs.nodup, hs.came, nofun⟩

/-- Fixing the subscriptions of the feed. -/
theorem Served.fix (hs : x.Served i b fixed tried came) (hx : x.Numbered number)
    (hstage : b.stage = .fresh) :
    (x.updateBroadcast i fun b' ↦
        { b' with stage := .sending, targets := x.subscribersOf b.feed }).Served i
      { b with stage := .sending, targets := x.subscribersOf b.feed }
      (fixed ++ x.subscribersOf b.feed) tried came := by
  obtain ⟨hnil, htried, -⟩ := hs.nil_of_fresh hstage
  have hall := hx.subscribersOf b.feed
  rw [hnil, List.nil_append]
  refine ⟨?_, nofun, fun _ ↦ ?_, ?_, nofun, hs.delivered, hs.gone,
    fun s hmem ↦ (hall.2 s hmem).1, ?_, hs.came, nofun⟩
  · exact getElem?_updateBroadcast hs.here _
  · rw [htried, List.map_nil, List.nil_append]
  · rw [htried]
    exact List.nil_prefix
  · -- subscriptions of one feed with the same mailbox have the same number
    refine List.Nodup.map_on (fun s hs s' hs' hm ↦ Prod.ext ?_ hm) hall.1
    rw [(hall.2 s hs).2, (hall.2 s' hs').2, hm]

/-- Serving the subscription whose turn it is, or passing it over. -/
theorem Served.attempt (hs : x.Served i b fixed tried came) (hstage : b.stage = .sending)
    {s : Nat × MailboxId} {rest : List (Nat × MailboxId)} (htargets : b.targets = s :: rest)
    {x' : Exchange α} {b' : Broadcast α} {came' : MailboxId → List (BroadcastId × Change α)}
    (read : Bool) (hb' : x'.broadcasts[i]? = some b')
    (hsame : b'.feed = b.feed ∧ b'.change = b.change ∧ b'.stage = .sending ∧ b'.targets = rest)
    (hdelivered : b'.delivered = b.delivered + if read then 1 else 0)
    (hgone : b'.gone = b.gone ++ if read then [] else [s.1]) (hfeed : x'.feedOf = x.feedOf)
    (hcame : ∀ m, came' m = came m ++ if read && s.2 == m then [(i, b.change)] else []) :
    x'.Served i b' fixed (tried ++ [(s, read)]) came' := by
  obtain ⟨hfeed', hchange, hsending, hrest⟩ := hsame
  have hsplit : fixed = (tried ++ [(s, read)]).map (·.1) ++ rest := by
    rw [hs.split (by rw [hstage]; exact Stage.noConfusion), htargets, List.map_append,
      List.append_assoc]
    rfl
  refine ⟨hb', fun h ↦ ?_, fun _ ↦ hrest ▸ hsplit, ?_, fun h ↦ ?_, ?_, ?_, fun s hmem ↦ ?_,
    hs.nodup, fun m ↦ ?_, fun h ↦ ?_⟩
  · rw [hsending] at h
    cases h
  · rw [hsplit]
    exact List.prefix_append _ _
  · rw [hsending] at h
    cases h
  · rw [hdelivered, hs.delivered, List.filter_append, List.length_append]
    cases read <;> rfl
  · rw [hgone, hs.gone, List.filter_append, List.map_append]
    cases read <;> rfl
  · rw [hfeed, hfeed']
    exact hs.known s hmem
  · rw [hcame, hs.came, hchange, handed_concat]
  · rw [hsending] at h
    cases h

/-- Ending the subscriptions whose reader was gone. -/
theorem Served.finish (hs : x.Served i b fixed tried came) (hstage : b.stage = .sending)
    (htargets : b.targets = []) :
    ((x.updateFeed b.feed fun f ↦ { f with
        subscribers := f.subscribers.filter fun s ↦ !b.gone.contains s.1 }).updateBroadcast i
      fun b' ↦ { b' with stage := .done }).Served i { b with stage := .done } fixed tried came := by
  refine ⟨?_, nofun, fun _ ↦ ?_, hs.begun, fun _ ↦ htargets, hs.delivered, hs.gone,
    hs.known, hs.nodup, hs.came, fun _ s hp hmem ↦ ?_⟩
  · exact getElem?_updateBroadcast (x := x.updateFeed _ _) hs.here _
  · exact hs.split (by rw [hstage]; exact Stage.noConfusion)
  · have hgone : s.1 ∈ b.gone := by
      rw [hs.gone]
      exact List.mem_map.2 ⟨(s, false), List.mem_filter.2 ⟨hp, rfl⟩, rfl⟩
    exact not_mem_subscribersOf_of_gone hgone hmem

/-- What comes in by a step of a broadcast is its own change. -/
theorem filter_arriving_advance (x : Exchange α) (m : MailboxId) (i : BroadcastId) :
    (x.arriving m (.advance i)).filter (·.1 == i) = x.arriving m (.advance i) := by
  rw [List.filter_eq_self, arriving]
  intro p hp
  obtain ⟨c, -, rfl⟩ := List.mem_map.1 hp
  exact beq_self_eq_true i

/-- A step of the broadcast itself. -/
theorem Served.advance (hs : x.Served i b fixed tried came) (hx : x.Numbered number) :
    ∃ b', (x.act (.advance i)).Served i b' (fixed ++ x.fixing i (.advance i))
      (tried ++ x.attempting i (.advance i))
      fun m ↦ came m ++ (x.arriving m (.advance i)).filter (·.1 == i) := by
  have hthis : ∀ {b₀}, x.broadcasts[i]? = some b₀ → b₀ = b := fun hb₀ ↦
    Option.some.inj (hb₀.symm.trans hs.here)
  -- what is noted is told by what is before and after the step
  have hfixing : ∀ {b₀}, x.broadcasts[i]? = some b₀ → b₀.stage = .sending →
      x.fixing i (.advance i) = [] := fun hb₀ hstage ↦ fixing_of_not_fresh fun b hb ↦ by
    rw [hb₀, Option.some.injEq] at hb
    rw [← hb, hstage]
    exact Stage.noConfusion
  have harriving : ∀ {m} {new : List (Change α)},
      (x.advance i).2.2.queued m = x.queued m ++ new →
        x.arriving m (.advance i) = new.map (i, ·) := arriving_of_queued_eq
  have hnothing : (∀ m, (x.advance i).2.2.queued m = x.queued m) →
      (fun m ↦ came m ++ x.arriving m (.advance i)) = came := fun h ↦ by
    funext m
    rw [arriving_eq_nil (h m), List.append_nil]
  have hlist := targetsOf_of_some hs.here
  have hadvances := x.advances_advance i
  simp only [act, filter_arriving_advance]
  generalize hafter : (x.advance i).2.2 = x' at *
  cases hadvances with
  | idle hfresh =>
    rw [hnothing fun m ↦ rfl, fixing_of_not_fresh hfresh,
      attempting_of_targetsOf (l := []) (by rw [hafter]; rfl), List.append_nil, List.map_nil,
      List.append_nil]
    exact ⟨b, hs⟩
  | @fix b₀ hb hstage =>
    obtain rfl := hthis hb
    rw [hnothing fun m ↦ rfl, fixing_of_fresh hb hstage,
      attempting_of_targetsOf_eq_nil (hlist.trans (hs.nil_of_fresh hstage).2.2), List.append_nil]
    exact ⟨_, hs.fix hx hstage⟩
  | @pass b₀ n m rest hb hstage htargets hread =>
    obtain rfl := hthis hb
    have hb' := getElem?_updateBroadcast (x := x.updateMailbox m (·.forget i)) hb fun b' ↦
      { b' with targets := rest, gone := b'.gone ++ [n] }
    rw [hnothing fun _ ↦ queued_updateMailbox fun _ _ ↦ rfl, hfixing hb hstage, List.append_nil,
      attempting_of_targetsOf (l := [(n, m)])
        (by rw [hafter, targetsOf_of_some hb', hlist, htargets]; rfl)]
    simp only [List.map_cons, List.map_nil, hread]
    refine ⟨_, hs.attempt hstage htargets false hb' ⟨rfl, rfl, hstage, rfl⟩ rfl rfl ?_
      fun m' ↦ ?_⟩
    · exact feedOf_updateMailbox (g := (·.forget i)) (fun _ ↦ rfl) m
    · exact (List.append_nil _).symm
  | @serve b₀ n m rest hb hstage htargets hread =>
    obtain rfl := hthis hb
    have hb' := getElem?_updateBroadcast (x := x.updateMailbox m (·.push i b₀.change)) hb fun b' ↦
      { b' with targets := rest, delivered := b'.delivered + 1 }
    rw [hfixing hb hstage, List.append_nil, attempting_of_targetsOf (l := [(n, m)])
        (by rw [hafter, targetsOf_of_some hb', hlist, htargets]; rfl)]
    simp only [List.map_cons, List.map_nil, hread]
    refine ⟨_, hs.attempt hstage htargets true hb' ⟨rfl, rfl, hstage, rfl⟩ rfl
      (List.append_nil _).symm ?_ fun m' ↦ congrArg _ ?_⟩
    · exact feedOf_updateMailbox (g := (·.push i b₀.change)) (fun _ ↦ rfl) m
    · by_cases hm : m = m'
      · subst hm
        rw [harriving (queued_push hread i b₀.change)]
        simp
      · have hsame : (x.updateMailbox m (·.push i b₀.change)).queued m' = x.queued m' :=
          queued_updateMailbox fun _ h ↦ absurd h hm
        rw [harriving (hsame.trans (List.append_nil _).symm)]
        simp [hm]
  | await hb hstage mailbox =>
    have hqueue : ∀ m, (x.updateMailbox mailbox (·.await i)).queued m = x.queued m := fun m ↦
      queued_updateMailbox fun box _ ↦ box.queue_await i
    have hfeed : (x.updateMailbox mailbox (·.await i)).feedOf = x.feedOf :=
      feedOf_updateMailbox (fun box ↦ (box.keeps_await i).1) mailbox
    rw [hnothing hqueue, hfixing hb hstage,
      attempting_of_targetsOf (l := []) (by rw [hafter]; rfl), List.append_nil, List.map_nil,
      List.append_nil]
    exact ⟨b, hs.frame hs.here (.inl rfl) (fun h ↦ hfeed ▸ h) fun _ ↦ .inl⟩
  | @finish b₀ hb hstage htargets =>
    obtain rfl := hthis hb
    rw [hnothing fun m ↦ rfl, hfixing hb hstage,
      attempting_of_targetsOf_eq_nil (hlist.trans htargets), List.append_nil, List.append_nil]
    exact ⟨_, hs.finish hstage htargets⟩

/-- What a broadcast has done so far, after an action of anybody. -/
theorem Served.act (hs : x.Served i b fixed tried came) (hx : x.Numbered number) (a : Action α) :
    ∃ b', (x.act a).Served i b' (fixed ++ x.fixing i a) (tried ++ x.attempting i a)
      fun m ↦ came m ++ (x.arriving m a).filter (·.1 == i) := by
  by_cases ha : a = .advance i
  · subst ha
    exact hs.advance hx
  · obtain ⟨hfixing, hattempting, harriving⟩ := noted_of_ne (x := x) ha
    obtain ⟨b', hb', hsame⟩ := exists_broadcast_act_of_ne ha hs.here
    simp only [hfixing, hattempting, harriving, List.append_nil]
    exact ⟨b', hs.frame hb' (hsame.imp_right And.right) (feedOf_act a)
      fun s ↦ mem_subscribersOf_act⟩

/-- Before a broadcast is made nothing is noted for it. -/
theorem noted_of_none (hnone : x.broadcasts[i]? = none) (a : Action α) :
    x.fixing i a = [] ∧ x.attempting i a = [] ∧
      ∀ m, (x.arriving m a).filter (·.1 == i) = [] := by
  by_cases ha : a = .advance i
  · subst ha
    have hstill : (x.advance i).2.2 = x := by rw [advance, hnone]
    refine ⟨fixing_of_not_fresh fun b hb ↦ ?_, attempting_of_targetsOf_eq_nil ?_, fun m ↦ ?_⟩
    · rw [hnone] at hb
      cases hb
    · rw [targetsOf, hnone]
      rfl
    · rw [arriving_eq_nil (by rw [hstill])]
      rfl
  · exact noted_of_ne ha

/-- Every broadcast of a run has done what is noted for it, and nothing is noted for others. -/
theorem served_run (i : BroadcastId) (actions : List (Action α)) :
    match (({} : Exchange α).run actions).broadcasts[i]? with
    | some b => (({} : Exchange α).run actions).Served i b (({} : Exchange α).fixed i actions)
        (({} : Exchange α).attempts i actions) fun m ↦ ({} : Exchange α).arrivalsOf i m actions
    | none => ({} : Exchange α).fixed i actions = [] ∧ ({} : Exchange α).attempts i actions = [] ∧
        ∀ m, ({} : Exchange α).arrivalsOf i m actions = [] := by
  induction actions using List.reverseRecOn with
  | nil => exact ⟨rfl, rfl, fun _ ↦ rfl⟩
  | append_singleton actions a ih =>
    rw [run_concat]
    simp only [Exchange.fixed, attempts, arrivalsOf, arrivals, noted_concat, List.filter_append]
    cases hb : (({} : Exchange α).run actions).broadcasts[i]? with
    | some b =>
      rw [hb] at ih
      obtain ⟨number, hx⟩ := exists_numbered_run (α := α) actions
      obtain ⟨b', hs'⟩ := Served.act ih hx a
      rw [hs'.here]
      exact hs'
    | none =>
      rw [hb] at ih
      obtain ⟨hfixed, hattempts, harrivals⟩ := ih
      obtain ⟨hfixing, hattempting, harriving⟩ := noted_of_none hb a
      rw [Exchange.fixed] at hfixed
      rw [attempts] at hattempts
      simp only [arrivalsOf, arrivals] at harrivals
      simp only [hfixed, hattempts, harrivals, hfixing, hattempting, harriving, List.append_nil]
      split
      · rename_i b hb'
        obtain ⟨feed, c, rfl⟩ := eq_of_broadcast_new hb hb'
        exact served_new hb'
      · exact ⟨trivial, trivial, fun _ ↦ trivial⟩

/-! ### Once for each subscription -/

/-- Where no two of a list have the same key, a key picks out one of them. -/
theorem filter_key_eq {β γ : Type} [DecidableEq γ] {l : List β} {key : β → γ}
    (hl : (l.map key).Nodup) {p : β} (hp : p ∈ l) : (l.filter fun q ↦ key q == key p) = [p] := by
  induction l with
  | nil => cases hp
  | cons q l ih =>
    obtain ⟨hq, hl⟩ := List.nodup_cons.1 hl
    rcases List.mem_cons.1 hp with rfl | hp
    · rw [List.filter_cons, if_pos (beq_self_eq_true (key p)), List.filter_eq_nil_iff.2]
      exact fun r hr heq ↦ hq (List.mem_map.2 ⟨r, hr, beq_iff_eq.1 heq⟩)
    · rw [List.filter_cons, if_neg, ih hl hp]
      exact fun heq ↦ hq (List.mem_map.2 ⟨p, hp, (beq_iff_eq.1 heq).symm⟩)

/-- A subscription that was tried got the change once if somebody read its mailbox then. -/
theorem Served.came_of_mem (hs : x.Served i b fixed tried came) {s : Nat × MailboxId} {read : Bool}
    (hp : (s, read) ∈ tried) : came s.2 = if read then [(i, b.change)] else [] := by
  have hkeys : (tried.map (·.1.2)).Nodup := by
    have hsub := (hs.begun.map (·.2)).sublist
    rw [List.map_map] at hsub
    exact hs.nodup.sublist hsub
  rw [hs.came, handed, ← List.filter_filter, filter_key_eq hkeys hp]
  cases read <;> rfl

/-- Only subscriptions that were fixed can get the change. -/
theorem Served.exists_of_came (hs : x.Served i b fixed tried came) {m : MailboxId}
    (hm : came m ≠ []) : ∃ n, ((n, m), true) ∈ tried := by
  rw [hs.came, handed, ne_eq, List.map_eq_nil_iff] at hm
  obtain ⟨⟨⟨n, m'⟩, read⟩, hp⟩ := List.exists_mem_of_ne_nil _ hm
  obtain ⟨hmem, hkey⟩ := List.mem_filter.1 hp
  obtain ⟨rfl, hm⟩ := Bool.and_eq_true_iff.1 hkey
  obtain rfl := beq_iff_eq.1 hm
  exact ⟨n, hmem⟩

/-- No mailbox gets the change twice. -/
theorem Served.came_cases (hs : x.Served i b fixed tried came) (m : MailboxId) :
    came m = [] ∨ came m = [(i, b.change)] := by
  by_cases hm : came m = []
  · exact .inl hm
  · obtain ⟨n, hp⟩ := hs.exists_of_came hm
    exact .inr (hs.came_of_mem hp)

/-- A broadcast fixes its subscriptions but once. -/
theorem fixed_eq_nil (hb : x.broadcasts[i]? = some b) (hstage : b.stage ≠ .fresh)
    (actions : List (Action α)) : x.fixed i actions = [] := by
  induction actions generalizing x b with
  | nil => rfl
  | cons a actions ih =>
    obtain ⟨b', hb', hstage'⟩ := exists_broadcast_act_of_not_fresh hb hstage a
    refine List.append_eq_nil_iff.2 ⟨?_, ih hb' hstage'⟩
    by_cases ha : a = .advance i
    · subst ha
      refine fixing_of_not_fresh fun b₀ hb₀ ↦ ?_
      rw [hb, Option.some.injEq] at hb₀
      exact hb₀ ▸ hstage
    · exact (noted_of_ne ha).1

/-- What a broadcast fixes are the subscriptions of its feed at its first step. -/
theorem fixed_eq_subscribersOf {earlier later : List (Action α)}
    (hb : (({} : Exchange α).run earlier).broadcasts[i]? = some b) (hstage : b.stage = .fresh) :
    ({} : Exchange α).fixed i (earlier ++ .advance i :: later) =
      (({} : Exchange α).run earlier).subscribersOf b.feed := by
  have hs := served_run (α := α) i earlier
  rw [hb] at hs
  obtain ⟨b', hb', -, hstage', -⟩ := exists_broadcast_act_advance hb
  have hnone : noted (·.fixing i) ({} : Exchange α) earlier = [] := hs.fresh hstage
  have hrest : noted (·.fixing i) _ later = [] := fixed_eq_nil hb' hstage' later
  rw [fixed, noted_append, noted, hnone, hrest, fixing_of_fresh hb hstage, List.nil_append,
    List.append_nil]

/-! ### Every run -/

/-- Whatever happens meanwhile, a broadcast puts its change into each mailbox at most once, and only
into those of the subscriptions that it has fixed, which are those that its feed had at its first
step. When it is done, each of them got the change once or, if nobody read its mailbox any more, has
been ended, and the others are counted. No mailbox ever holds more than its feed provides for. -/
theorem fanned_out (actions : List (Action α)) :
    let e : Exchange α := {}
    let x := e.run actions
    (∀ i b, x.broadcasts[i]? = some b →
      (∀ m, e.arrivalsOf i m actions = [] ∨ e.arrivalsOf i m actions = [(i, b.change)]) ∧
      (∀ earlier later b₀, actions = earlier ++ .advance i :: later →
        (e.run earlier).broadcasts[i]? = some b₀ → b₀.stage = .fresh →
          e.fixed i actions = (e.run earlier).subscribersOf b₀.feed ∧
          ∀ m, (e.run earlier).feedOf m = none → e.arrivalsOf i m actions = []) ∧
      (b.stage = .done →
        (e.attempts i actions).map (·.1) = e.fixed i actions ∧
        ((e.fixed i actions).map (·.2)).Nodup ∧
        b.delivered = ((e.attempts i actions).filter (·.2)).length ∧
        ∀ s read, (s, read) ∈ e.attempts i actions →
          e.arrivalsOf i s.2 actions = (if read then [(i, b.change)] else []) ∧
          (read = false → s ∉ x.subscribersOf b.feed))) ∧
    ∀ (m : MailboxId) (box : Mailbox α), x.mailboxes[m]? = some box →
      ∃ f : Feed, x.feeds[box.feed]? = some f ∧ box.queue.length ≤ f.capacity := by
  intro e x
  refine ⟨fun i b hb ↦ ?_, fun m box hbox ↦ ?_⟩
  · have hs := served_run (α := α) i actions
    rw [show (({} : Exchange α).run actions).broadcasts[i]? = some b from hb] at hs
    refine ⟨hs.came_cases, fun earlier later b₀ hsplit hb₀ hstage ↦ ?_, fun hdone ↦ ?_⟩
    · have hfixed : e.fixed i actions = (e.run earlier).subscribersOf b₀.feed :=
        hsplit ▸ fixed_eq_subscribersOf hb₀ hstage
      refine ⟨hfixed, fun m hm ↦ ?_⟩
      by_contra hcame
      obtain ⟨n, hp⟩ := hs.exists_of_came hcame
      have hmem : (n, m) ∈ (e.run earlier).subscribersOf b₀.feed := hfixed ▸ hs.mem_fixed hp
      obtain ⟨number, hx⟩ := exists_numbered_run (α := α) earlier
      have hfeed := ((hx.subscribersOf b₀.feed).2 _ hmem).1
      rw [show (({} : Exchange α).run earlier).feedOf m = none from hm] at hfeed
      cases hfeed
    · refine ⟨?_, hs.nodup, hs.delivered, fun s read hp ↦ ⟨hs.came_of_mem hp, ?_⟩⟩
      · rw [hs.split (by rw [hdone]; exact Stage.noConfusion), hs.finished hdone, List.append_nil]
      · rintro rfl
        exact hs.pruned hdone s hp
  · obtain ⟨f, hf, hcapacity, hle⟩ := bounded_run actions m box hbox
    exact ⟨f, hf, hcapacity ▸ hle⟩

/-- Two broadcasts overlap on a feed with room for one change. The second waits for the first
reader, the other reader stops to read, and a third subscribes too late for both. -/
theorem fanned_out_overlapping :
    let earlier : List (Action Nat) :=
      [.openFeed 1, .subscribe 0, .subscribe 0, .announce 0 (.added 5), .announce 0 (.added 6)]
    let later : List (Action Nat) :=
      [.advance 1, .advance 0, .advance 1, .subscribe 0, .discard 1, .receive 0, .advance 1,
        .advance 0, .advance 0, .advance 1, .advance 1]
    let actions := earlier ++ .advance 0 :: later
    let e : Exchange Nat := {}
    let b : Broadcast Nat :=
      { feed := 0, change := .added 5, stage := .done, delivered := 1, gone := [2] }
    (e.run actions).broadcasts[0]? = some b ∧
      (e.run earlier).broadcasts[0]? = some { feed := 0, change := .added 5 } ∧
      (e.run earlier).feedOf 2 = none ∧
      e.attempts 0 actions = [((1, 0), true), ((2, 1), false)] ∧
      e.arrivalsOf 0 0 actions = [(0, .added 5)] ∧ e.arrivalsOf 0 1 actions = [] ∧
      (2, 1) ∉ (e.run actions).subscribersOf 0 ∧ e.arrivalsOf 0 2 actions = [] := by
  intro earlier later actions e b
  have hb : (e.run actions).broadcasts[0]? = some b := by decide
  have hb₀ : (e.run earlier).broadcasts[0]? = some { feed := 0, change := .added 5 } := by decide
  have hnew : (e.run earlier).feedOf 2 = none := by decide
  have hattempts : e.attempts 0 actions = [((1, 0), true), ((2, 1), false)] := by decide
  obtain ⟨-, hfixed, hdone⟩ := (fanned_out actions).1 0 b hb
  obtain ⟨-, -, -, hattempted⟩ := hdone rfl
  obtain ⟨hread, -⟩ := hattempted (1, 0) true (by rw [hattempts]; decide)
  obtain ⟨hunread, hended⟩ := hattempted (2, 1) false (by rw [hattempts]; decide)
  exact ⟨hb, hb₀, hnew, hattempts, hread, hunread, hended rfl,
    (hfixed earlier later _ rfl hb₀ rfl).2 2 hnew⟩

end Exchange

end LiveFind
