import LiveFind.Proofs.Exchange.Issued
import LiveFind.Proofs.World.Feeds

/-!
# Following a feed

Whether a finder may follow a feed is told by the finder and the feed alone: its hits must not be
retired, it must not follow a feed already, and the feed must not be closed. What is refused changes
nothing, and what is granted adds a link, with a subscription and a courier (`FollowsAlone`).

The number of the subscription is one that the feed has not given out before. A feed whose mailboxes
can be made counts: the numbers that a run makes it give out (`issued`) are all numbers from its
next one on, in order (`countsUp_run`). So where all of them fit into 64 bits, no two of them are
the same in 64 bits either.
-/

namespace LiveFind

namespace Exchange

variable {α : Type} {x x' : Exchange α} {feed : FeedId}

theorem Dwindles.nextOf_eq (h : x.Dwindles x') :
    x'.nextOf feed = x.nextOf feed := by
  induction h with
  | refl => rfl
  | act a ha _ ih =>
    rw [nextOf_act_of_ne ?_, ih]
    rintro i rfl
    cases ha

end Exchange

namespace World

variable {α : Type} [BEq α] [Hashable α] {w : World α} {i : FinderId} {f : Finder α}
  {feed : FeedId} {fd : Feed}

/-! ### One attempt -/

/-- What comes of an attempt to follow a feed that counts, told by the finder and the feed. -/
theorem follow_of_some (hf : w.finders[i]? = some f) (hfd : w.exchange.feeds[feed]? = some fd)
    (hcapacity : fd.capacity ≤ bufferLimit) (view : Option ViewId) :
    f.hits.retired = true ∧ w.follow i feed view = (.error .retired, w) ∨
    f.hits.retired = false ∧ f.link.isSome = true ∧
      w.follow i feed view = (.error .alreadyFollowing, w) ∨
    f.hits.retired = false ∧ f.link = none ∧ fd.closed = true ∧
      w.follow i feed view = (.error .feedClosed, w) ∨
    f.hits.retired = false ∧ f.link = none ∧ fd.closed = false ∧
      ∃ notes, w.follow i feed view = (.ok (), { w.withLink i feed view fd with notes }) := by
  rw [follow, hf]
  dsimp only
  split
  · exact .inl ⟨‹_›, rfl⟩
  · rename_i hretired
    rw [Bool.not_eq_true] at hretired
    split
    · exact .inr (.inl ⟨hretired, ‹_›, rfl⟩)
    · rename_i hlink
      rw [Option.not_isSome_iff_eq_none] at hlink
      rw [Exchange.subscribe_of_some hfd, if_neg (Nat.not_lt.2 hcapacity)]
      cases hclosed : fd.closed with
      | true => exact .inr (.inr (.inl ⟨hretired, hlink, rfl, rfl⟩))
      | false => exact .inr (.inr (.inr ⟨hretired, hlink, rfl, _, rfl⟩))

/-- Where there is a finder that is free to follow a feed, seen by evaluation. -/
theorem exists_free_of_any
    (h : (w.finders[i]?).any (fun f ↦ !f.hits.retired && f.link == none) = true) :
    ∃ f, w.finders[i]? = some f ∧ f.hits.retired = false ∧ f.link = none := by
  obtain ⟨f, hf, hfree⟩ := (Option.any_eq_true _ _).1 h
  rw [Bool.and_eq_true, Bool.not_eq_true', beq_iff_eq] at hfree
  exact ⟨f, hf, hfree⟩

/-- The other world differs from this one by the link of a finder, with its courier and with its
subscription, which has the next number of the feed. -/
structure FollowsAlone (w w' : World α) (i : FinderId) (f : Finder α) (feed : FeedId) (fd : Feed)
    (view : Option ViewId) : Prop where
  finder : w'.finders[i]? =
    some { f with link := some ⟨feed, fd.nextNumber, w.couriers.length⟩ }
  finders : ∀ k, k ≠ i → w'.finders[k]? = w.finders[k]?
  couriers : w'.couriers = w.couriers ++
    [{ finder := i, mailbox := w.exchange.mailboxes.length, number := fd.nextNumber, view }]
  views : w'.views = w.views
  mailboxes : w'.exchange.mailboxes =
    w.exchange.mailboxes ++ [{ feed, capacity := fd.capacity }]
  broadcasts : w'.exchange.broadcasts = w.exchange.broadcasts
  followed : w'.exchange.feeds[feed]? = some { fd with
    subscribers := fd.subscribers ++ [(fd.nextNumber, w.exchange.mailboxes.length)]
    nextNumber := fd.nextNumber + 1
    holders := fd.holders + 1 }
  feeds : ∀ k, k ≠ feed → w'.exchange.feeds[k]? = w.exchange.feeds[k]?

theorem followsAlone_withLink (hf : w.finders[i]? = some f)
    (hfd : w.exchange.feeds[feed]? = some fd) (view : Option ViewId) (notes : List Note) :
    w.FollowsAlone { w.withLink i feed view fd with notes } i f feed fd view where
  finder := (Exchange.getElem?_modify_of_some hf i _).trans (by rw [if_pos rfl])
  finders k hk := List.getElem?_modify_ne _ _ hk.symm
  couriers := rfl
  views := rfl
  mailboxes := rfl
  broadcasts := rfl
  followed := by
    have hsubscribed := Exchange.getElem?_modify_of_some hfd feed fun f ↦ { f with
      nextNumber := f.nextNumber + 1
      subscribers := f.subscribers ++ [(f.nextNumber, w.exchange.mailboxes.length)] }
    rw [if_pos rfl] at hsubscribed
    exact (Exchange.getElem?_modify_of_some hsubscribed feed _).trans (by rw [if_pos rfl])
  feeds k hk := (List.getElem?_modify_ne _ _ hk.symm).trans (List.getElem?_modify_ne _ _ hk.symm)

/-! ### The numbers that a run makes a feed give out -/

variable [Findable α]

/-- The number of the subscription that an action makes, if it makes one of the feed. -/
def issuing (w : World α) (feed : FeedId) : Action α → List Nat
  | .exchange x => w.exchange.issuing feed x
  | .follow i feed' view =>
    if (w.follow i feed' view).1.isOk then w.exchange.issuing feed (.subscribe feed') else []
  | _ => []

/-- The numbers of the subscriptions of the feed that a run makes, in order. -/
def issued (w : World α) (feed : FeedId) : List (Action α) → List Nat
  | [] => []
  | a :: actions => w.issuing feed a ++ (w.act a).issued feed actions

/-- A feed stays, with its capacity. -/
theorem exists_feed_run (hfd : w.exchange.feeds[feed]? = some fd) (actions : List (Action α)) :
    ∃ fd', (w.run actions).exchange.feeds[feed]? = some fd' ∧ fd'.capacity = fd.capacity := by
  refine preserved_run (P := fun x ↦ ∃ f', x.feeds[feed]? = some f' ∧ f'.capacity = fd.capacity)
    ?_ actions ⟨fd, hfd, rfl⟩
  rintro x a ⟨f, hf, hcapacity⟩
  obtain ⟨f', hf', hsame⟩ := Exchange.exists_capacity_act a hf
  exact ⟨f', hf', hsame.trans hcapacity⟩

theorem accepts_of_run {actions : List (Action α)}
    (h : (w.run actions).exchange.Accepts feed) : w.exchange.Accepts feed := by
  intro fd hfd
  obtain ⟨fd', hfd', hcapacity⟩ := exists_feed_run hfd actions
  exact hcapacity ▸ h fd' hfd'

omit [Findable α] in
theorem countsUp_follow (hw : w.exchange.Accepts feed) (i : FinderId) (feed' : FeedId)
    (view : Option ViewId) : CountsUp (w.exchange.nextOf feed)
      ((w.follow i feed' view).2.exchange.nextOf feed) (w.issuing feed (.follow i feed' view)) := by
  have hsubscribe := Exchange.countsUp_act hw (.subscribe feed')
  rw [Exchange.act] at hsubscribe
  rw [issuing, follow]
  split
  · exact .refl _
  · split
    · exact .refl _
    · split
      · exact .refl _
      · split <;> rename_i exchange heq
        · rw [Exchange.issuing_subscribe_of_error (by rw [heq]), heq] at hsubscribe
          exact hsubscribe
        · rw [heq] at hsubscribe
          show CountsUp _ ((exchange.hold feed').nextOf feed) _
          rw [show (exchange.hold feed').nextOf feed = exchange.nextOf feed from
            Exchange.nextOf_act_of_ne (a := .hold feed') fun _ h ↦ by cases h]
          exact hsubscribe

omit [Findable α] in
theorem issuing_of_ne {a : Action α} (ha : ∀ x, a ≠ .exchange x)
    (hfollow : ∀ i feed' view, a ≠ .follow i feed' view) : w.issuing feed a = [] := by
  cases a with
  | exchange x => exact absurd rfl (ha x)
  | follow i feed' view => exact absurd rfl (hfollow i feed' view)
  | _ => rfl

/-- An action makes the feed give out its next number, or none. -/
theorem countsUp_act (hw : w.exchange.Accepts feed) (a : Action α) :
    CountsUp (w.exchange.nextOf feed) ((w.act a).exchange.nextOf feed) (w.issuing feed a) := by
  rcases a.exchange_or with ⟨x, rfl⟩ | hne
  · obtain ⟨notes, heq⟩ := w.exists_act_exchange x
    rw [heq]
    exact Exchange.countsUp_act hw x
  · by_cases hfollow : ∃ i feed' view, a = .follow i feed' view
    · obtain ⟨i, feed', view, rfl⟩ := hfollow
      exact countsUp_follow hw i feed' view
    · have hne' : ∀ i feed' view, a ≠ .follow i feed' view :=
        fun i feed' view heq ↦ hfollow ⟨i, feed', view, heq⟩
      rw [(dwindles_act hne hne').nextOf_eq, issuing_of_ne hne hne']
      exact .refl _

/-- A run makes a feed give out all numbers from its next one on, in order. -/
theorem countsUp_run {actions : List (Action α)}
    (h : (w.run actions).exchange.Accepts feed) : CountsUp (w.exchange.nextOf feed)
      ((w.run actions).exchange.nextOf feed) (w.issued feed actions) := by
  induction actions generalizing w with
  | nil => exact .refl _
  | cons a actions ih => exact (countsUp_act (accepts_of_run h) a).append (ih h)

/-- In a run no number is given out twice, and as long as there are not too many, no two of them
are the same in 64 bits. -/
theorem nextNumber_not_mem_issued {actions : List (Action α)}
    (hfd : (({} : World α).run actions).exchange.feeds[feed]? = some fd)
    (hcapacity : fd.capacity ≤ bufferLimit) :
    fd.nextNumber ∉ ({} : World α).issued feed actions ∧
      ((({} : World α).issued feed actions).length < 0x10000000000000000 →
        UInt64.ofNat fd.nextNumber ∉ (({} : World α).issued feed actions).map UInt64.ofNat) := by
  have haccepts : (({} : World α).run actions).exchange.Accepts feed := fun f hf ↦ by
    rw [hfd, Option.some.injEq] at hf
    exact hf ▸ hcapacity
  have hcounts := countsUp_run haccepts
  rw [Exchange.nextOf_of_some hfd] at hcounts
  refine ⟨fun hmem ↦ Nat.lt_irrefl _ (hcounts.le_and_lt_of_mem hmem).2, fun hlength hmem ↦ ?_⟩
  obtain ⟨number, hmem, heq⟩ := List.mem_map.1 hmem
  obtain ⟨hle, hlt⟩ := hcounts.le_and_lt_of_mem hmem
  obtain ⟨count, hnext, hissued⟩ := hcounts
  rw [hissued, List.length_range'] at hlength
  -- all numbers are between 1 and the next one, which is 2⁶⁴ at most
  have hone : Exchange.nextOf ({} : World α).exchange feed = 1 := rfl
  have hsame : number % 0x10000000000000000 = fd.nextNumber % 0x10000000000000000 := by
    rw [← UInt64.toNat_ofNat', ← UInt64.toNat_ofNat', heq]
  omega

/-! ### Every attempt -/

/-- An attempt to follow a feed fails if the hits are retired; if not, it fails if the finder
follows a feed already; if not, it fails if the feed is closed; and if not, it succeeds. What fails
changes nothing. What succeeds adds the link of the finder, with a courier and with a subscription
whose number the feed has not given out before. -/
theorem follow_decided (actions : List (Action α)) :
    let w := ({} : World α).run actions
    ∀ i f feed fd view, w.finders[i]? = some f → w.exchange.feeds[feed]? = some fd →
      fd.capacity ≤ bufferLimit →
      let answer := (w.follow i feed view).1
      let w' := (w.follow i feed view).2
      let history := ({} : World α).issued feed actions
      (answer = .error .retired ↔ f.hits.retired = true) ∧
      (answer = .error .alreadyFollowing ↔ f.hits.retired = false ∧ f.link.isSome = true) ∧
      (answer = .error .feedClosed ↔
        f.hits.retired = false ∧ f.link = none ∧ fd.closed = true) ∧
      (answer = .ok () ↔ f.hits.retired = false ∧ f.link = none ∧ fd.closed = false) ∧
      (answer ≠ .ok () → w' = w) ∧
      (answer = .ok () → w.FollowsAlone w' i f feed fd view ∧ fd.nextNumber ∉ history ∧
        (history.length < 0x10000000000000000 →
          UInt64.ofNat fd.nextNumber ∉ history.map UInt64.ofNat)) := by
  intro w i f feed fd view hf hfd hcapacity answer w' history
  have hnew := nextNumber_not_mem_issued hfd hcapacity
  rcases follow_of_some hf hfd hcapacity view with ⟨hretired, heq⟩ |
    ⟨hretired, hlink, heq⟩ | ⟨hretired, hlink, hclosed, heq⟩ |
    ⟨hretired, hlink, hclosed, notes, heq⟩
  · have hanswer : answer = .error .retired := congrArg Prod.fst heq
    have hsame : w' = w := congrArg Prod.snd heq
    simp [hanswer, hsame, hretired]
  · have hanswer : answer = .error .alreadyFollowing := congrArg Prod.fst heq
    have hsame : w' = w := congrArg Prod.snd heq
    have hnone : f.link ≠ none := Option.isSome_iff_ne_none.1 hlink
    simp [hanswer, hsame, hretired, hnone, hlink]
  · have hanswer : answer = .error .feedClosed := congrArg Prod.fst heq
    have hsame : w' = w := congrArg Prod.snd heq
    simp [hanswer, hsame, hretired, hlink, hclosed]
  · have hanswer : answer = .ok () := congrArg Prod.fst heq
    have halone : w.FollowsAlone w' i f feed fd view := by
      rw [show w' = _ from congrArg Prod.snd heq]
      exact followsAlone_withLink hf hfd view notes
    rw [hanswer]
    refine ⟨?_, ?_, ?_, ?_, fun hne ↦ absurd rfl hne, fun _ ↦ ⟨halone, hnew⟩⟩
    all_goals simp [hretired, hlink, hclosed]

/-- A feed has a subscription from outside and a finder that follows it. The finder is refused to
follow it again, and another one may, with the third number, for a view that is closed. -/
theorem follow_decided_nodes :
    let row : Node := { id := "node:1", kind := "filter", label := "Row" }
    let actions : List (Action Node) :=
      [.exchange (.openFeed 2), .exchange (.subscribe 0), .openView, .closeView 0,
        .search (.ofText .default "filter") [row], .follow 0 0 none,
        .search (.ofText .default "filter") [row]]
    let w := ({} : World Node).run actions
    ({} : World Node).issued 0 actions = [1, 2] ∧
      (w.follow 0 0 none).1 = .error .alreadyFollowing ∧ (w.follow 0 0 none).2 = w ∧
      (w.follow 1 0 (some 0)).1 = .ok () ∧
      ∃ f : Finder Node,
        (w.follow 1 0 (some 0)).2.finders[1]? = some { f with link := some ⟨0, 3, 1⟩ } := by
  intro row actions w
  have hissued : ({} : World Node).issued 0 actions = [1, 2] := by decide +kernel
  have hcouriers : w.couriers.length = 1 := by decide +kernel
  have hfeed : w.exchange.feeds[0]? = some
      { capacity := 2, subscribers := [(1, 0), (2, 1)], nextNumber := 3, holders := 2 } := by
    decide +kernel
  have hfollowing : (w.finders[0]?).any (fun f ↦ !f.hits.retired && f.link.isSome) = true := by
    decide +kernel
  obtain ⟨f₀, hf₀, hlinked⟩ := (Option.any_eq_true _ _).1 hfollowing
  rw [Bool.and_eq_true, Bool.not_eq_true'] at hlinked
  obtain ⟨f, hf, hfree⟩ : ∃ f, w.finders[1]? = some f ∧ f.hits.retired = false ∧ f.link = none :=
    exists_free_of_any (by decide +kernel)
  have hdecided := follow_decided actions
  -- what the run leads to is known now, and need not be computed again
  clear_value actions
  obtain ⟨-, hrefused, -, -, hsame, -⟩ :=
    hdecided 0 f₀ 0 _ none hf₀ hfeed (by decide)
  obtain ⟨-, -, -, hgranted, -, halone⟩ :=
    hdecided 1 f 0 _ (some 0) hf hfeed (by decide)
  have hanswer := hrefused.2 hlinked
  have hok := hgranted.2 ⟨hfree.1, hfree.2, rfl⟩
  have hfinder := (halone hok).1.finder
  rw [hcouriers] at hfinder
  exact ⟨hissued, hanswer, hsame (fun h ↦ by rw [hanswer] at h; cases h), hok, f, hfinder⟩

end World

end LiveFind
