import LiveFind.Node
import LiveFind.Proofs.Exchange.Run
import LiveFind.Proofs.Hits.Run
import LiveFind.Schedule

/-!
# Runs of a world

Everything that can happen in a world, as actions that are indivisible steps: what users do with
views, feeds, subscriptions and finders, and the steps of couriers and broadcasts, in any order.

The hits of a finder change by moves of their own only (`HitsMove`), whichever action of the world
brings them about, so what holds of all reachable hits holds of all finders of a reachable world.
The main result is `Reachable.hits_sound`.
-/

namespace LiveFind

namespace World

/-- What can happen in a world. -/
inductive Action (α : Type)
  | openView
  | closeView (view : ViewId)
  /-- Somebody outside of the world does something in the exchange, or a broadcast takes a step. -/
  | exchange (a : Exchange.Action α)
  /-- A new finder with the hits of a search. -/
  | search (q : Query) (collection : List α)
  /-- A new finder with the hits of a list of matches, if the start index is one of theirs. -/
  | track (q : Query) (matched : List α) (start : Nat)
  | next (finder : FinderId)
  | previous (finder : FinderId)
  | apply (finder : FinderId) (view : Option ViewId) (c : Change α)
  | follow (finder : FinderId) (feed : FeedId) (view : Option ViewId)
  | retire (finder : FinderId)
  | drop (finder : FinderId)
  /-- One step of a courier. -/
  | carry (courier : CourierId)

variable {α : Type} [BEq α] [Hashable α] [Findable α]

/-- The world after an action. What fails leaves it as it is. -/
def act (w : World α) : Action α → World α
  | .openView => w.openView.2
  | .closeView view => w.closeView view
  | .exchange (.advance broadcast) => (w.step (.broadcast broadcast)).2
  | .exchange a => { w with exchange := w.exchange.act a }
  | .search q collection => (w.addFinder (Hits.ofSearch q collection)).2
  | .track q matched start =>
    match Hits.ofMatches q matched start with
    | .ok hits => (w.addFinder hits).2
    | .error _ => w
  | .next finder => (w.stepWith finder Hits.next).2
  | .previous finder => (w.stepWith finder Hits.previous).2
  | .apply finder view c => (w.apply finder view c).2
  | .follow finder feed view => (w.follow finder feed view).2
  | .retire finder => w.retire finder
  | .drop finder => w.dropFinder finder
  | .carry courier => (w.step (.courier courier)).2

/-- What an action in the exchange leaves alone. -/
theorem exists_act_exchange (w : World α) (a : Exchange.Action α) :
    ∃ notes, w.act (.exchange a) = { w with exchange := w.exchange.act a, notes } := by
  cases a <;> exact ⟨_, rfl⟩

/-- The world after all actions of a run. -/
def run (w : World α) (actions : List (Action α)) : World α :=
  actions.foldl act w

theorem run_cons (w : World α) (a : Action α) (actions : List (Action α)) :
    w.run (a :: actions) = (w.act a).run actions :=
  rfl

theorem run_append (w : World α) (actions actions' : List (Action α)) :
    w.run (actions ++ actions') = (w.run actions).run actions' :=
  List.foldl_append

/-- Worlds that a run leads to from an empty one. -/
inductive Reachable : World α → Prop
  | empty : Reachable {}
  | act {w : World α} (a : Action α) : Reachable w → Reachable (w.act a)

theorem Reachable.run {w : World α} (hw : w.Reachable) (actions : List (Action α)) :
    (w.run actions).Reachable := by
  induction actions generalizing w with
  | nil => exact hw
  | cons a actions ih => exact ih (hw.act a)

/-! ### Following a feed -/

omit [Findable α] in
/-- The world with a finder linked to a new subscription of a feed. -/
def withLink (w : World α) (finder : FinderId) (feed : FeedId) (view : Option ViewId) (f : Feed) :
    World α :=
  { w with
    exchange := (w.exchange.withSubscription feed f).hold feed
    couriers := w.couriers ++
      [{ finder, mailbox := w.exchange.mailboxes.length, number := f.nextNumber, view }]
    finders := w.finders.modify finder fun f' ↦
      { f' with link := some ⟨feed, f.nextNumber, w.couriers.length⟩ } }

omit [Findable α] in
/-- Following a feed links a finder to a new subscription; what is refused uses up a number of the
feed at most. -/
theorem follow_cases (w : World α) (finder : FinderId) (feed : FeedId) (view : Option ViewId) :
    (∃ fault, (w.follow finder feed view).1 = .error fault ∧
        ((w.follow finder feed view).2 = w ∨ (w.follow finder feed view).2 =
          { w with exchange := w.exchange.act (.subscribe feed) })) ∨
      ∃ f' f notes, w.finders[finder]? = some f' ∧ f'.hits.retired = false ∧ f'.link = none ∧
        w.exchange.feeds[feed]? = some f ∧ f.closed = false ∧
        w.exchange.act (.subscribe feed) = w.exchange.withSubscription feed f ∧
        w.follow finder feed view = (.ok (), { w.withLink finder feed view f with notes }) := by
  rw [follow]
  split
  · exact .inl ⟨_, rfl, .inl rfl⟩
  · rename_i f' hf'
    split
    · exact .inl ⟨_, rfl, .inl rfl⟩
    · rename_i hretired
      split
      · exact .inl ⟨_, rfl, .inl rfl⟩
      · rename_i hlink
        rcases w.exchange.subscribe_cases feed with ⟨fault, herr, -⟩ | ⟨f, hf, hopen, hok⟩
        · left
          split <;> rename_i heq
          · exact ⟨_, rfl, .inr (by rw [Exchange.act, heq])⟩
          · rw [heq] at herr
            cases herr
        · refine .inr ⟨f', f, w.notes ++ [.following f'.hits.query.text f.nextNumber], hf', ?_, ?_,
            hf, hopen, ?_, ?_⟩
          · simpa using hretired
          · simpa using hlink
          · rw [Exchange.act, hok]
          · rw [hok]
            rfl

/-! ### The steps of a courier -/

theorem couriers_apply (w : World α) (finder : FinderId) (view : Option ViewId) (c : Change α) :
    (w.apply finder view c).2.couriers = w.couriers := by
  rw [apply]
  split <;> rfl

theorem exchange_apply (w : World α) (finder : FinderId) (view : Option ViewId) (c : Change α) :
    (w.apply finder view c).2.exchange = w.exchange := by
  rw [apply]
  split <;> rfl

/-- The hits of a finder drop what comes or goes once they are retired or the view is closed. -/
theorem apply_eq_dropped_iff {w : World α} {finder : FinderId} {f : Finder α}
    (hf : w.finders[finder]? = some f) (view : Option ViewId) (change : Change α) :
    (w.apply finder view change).1 = .dropped ↔
      (f.hits.retired = true ∨ w.viewClosed view = true) ∧ change ≠ .other := by
  rw [World.apply, hf, ← Bool.or_eq_true]
  exact f.hits.apply_eq_dropped_iff (w.viewClosed view) change

/-- The world after reading a mailbox. -/
def withReceived (w : World α) (mailbox : MailboxId) : World α :=
  { w with exchange := w.exchange.act (.receive mailbox) }

/-- What one step of a courier can make of a world. -/
inductive Carries (w : World α) (j : CourierId) : World α → Prop
  /-- There is nothing to do at the moment. -/
  | idle : Carries w j w
  /-- Give the mailbox back, being out of service. -/
  | putAway {c : Courier} (hc : w.couriers[j]? = some c) (hstage : c.stage = .stopping) :
      Carries w j (w.putAway j c)
  /-- Come to an end because nothing more can come. -/
  | finish {c : Courier} (hc : w.couriers[j]? = some c) (hstage : c.stage = .running)
      (hqueue : w.exchange.queued c.mailbox = [])
      (hconnected : ∀ feed, w.exchange.feedOf c.mailbox = some feed →
        w.exchange.connected c.mailbox = false) : Carries w j (w.finish j c)
  /-- Come to an end because nobody is there to take the change. -/
  | lose {c : Courier} {change : Change α} {rest : List (Change α)}
      (hc : w.couriers[j]? = some c) (hstage : c.stage = .running)
      (hqueue : w.exchange.queued c.mailbox = change :: rest)
      (hgone : (w.finders[c.finder]?).any (·.gone) = true) :
      Carries w j ((w.withReceived c.mailbox).finish j c)
  /-- Come to an end because the hits drop the change. -/
  | refuse {c : Courier} {change : Change α} {rest : List (Change α)}
      (hc : w.couriers[j]? = some c) (hstage : c.stage = .running)
      (hqueue : w.exchange.queued c.mailbox = change :: rest)
      (hdropped : ((w.withReceived c.mailbox).apply c.finder c.view change).1 = .dropped) :
      Carries w j (((w.withReceived c.mailbox).apply c.finder c.view change).2.finish j c)
  /-- Carry the change to the hits. -/
  | bring {c : Courier} {change : Change α} {rest : List (Change α)}
      (hc : w.couriers[j]? = some c) (hstage : c.stage = .running)
      (hqueue : w.exchange.queued c.mailbox = change :: rest)
      (htaken : ((w.withReceived c.mailbox).apply c.finder c.view change).1 ≠ .dropped) :
      Carries w j ((w.withReceived c.mailbox).apply c.finder c.view change).2

theorem carries_carry (w : World α) (j : CourierId) : w.Carries j (w.carry j).2 := by
  rw [carry]
  split
  · exact .idle
  · rename_i c hc
    split
    · exact .idle
    · exact .putAway hc ‹_›
    · rename_i hstage
      rcases w.exchange.receive_cases c.mailbox with
        ⟨hqueue, -, hreceipt | ⟨hreceipt, hconnected⟩⟩ | ⟨change, rest, hqueue, heq⟩
      · split <;> rename_i heq <;> rw [heq] at hreceipt <;> cases hreceipt
        exact .idle
      · split <;> rename_i heq <;> rw [heq] at hreceipt <;> cases hreceipt
        exact .finish hc hstage hqueue hconnected
      · have hreceived : { w with exchange := (w.exchange.receive c.mailbox).2 } =
            w.withReceived c.mailbox := rfl
        have hlose := Carries.lose (w := w) hc hstage hqueue
        have hrefuse := Carries.refuse (w := w) hc hstage hqueue
        have hbring := Carries.bring (w := w) hc hstage hqueue
        rw [heq] at hreceived ⊢
        rw [← hreceived] at hlose hrefuse hbring
        dsimp only at hlose hrefuse hbring ⊢
        split
        · exact hlose ‹_›
        · split
          · rename_i w' happly
            rw [happly] at hrefuse
            exact hrefuse rfl
          · rename_i o w' hne happly
            rw [happly] at hbring
            exact hbring hne

/-! ### Hits move by themselves only -/

/-- The finders are the same, and the hits of each have moved at most. -/
def HitsMove (w w' : World α) : Prop :=
  w'.finders.length = w.finders.length ∧
    ∀ (i : FinderId) (f : Finder α), w.finders[i]? = some f →
      ∃ f' moves, w'.finders[i]? = some f' ∧ f'.hits = f.hits.run moves

theorem HitsMove.of_eq {w w' : World α} (h : w'.finders = w.finders) : HitsMove w w' :=
  ⟨congrArg List.length h, fun _ f hf ↦ ⟨f, [], h ▸ hf, rfl⟩⟩

theorem HitsMove.trans {w₁ w₂ w₃ : World α} (h₁ : HitsMove w₁ w₂) (h₂ : HitsMove w₂ w₃) :
    HitsMove w₁ w₃ := by
  refine ⟨h₂.1.trans h₁.1, fun i f₁ hf₁ ↦ ?_⟩
  obtain ⟨f₂, moves, hf₂, heq⟩ := h₁.2 i f₁ hf₁
  obtain ⟨f₃, moves', hf₃, heq'⟩ := h₂.2 i f₂ hf₂
  exact ⟨f₃, moves ++ moves', hf₃, by rw [heq', heq, Hits.run_append]⟩

/-- The finder in some place comes from the one that stood there. -/
theorem HitsMove.exists_of_some {w w' : World α} (h : HitsMove w w') {i : FinderId}
    {f' : Finder α} (hf' : w'.finders[i]? = some f') :
    ∃ f moves, w.finders[i]? = some f ∧ f'.hits = f.hits.run moves := by
  have hi : i < w.finders.length := h.1 ▸ (List.getElem?_eq_some_iff.1 hf').1
  obtain ⟨f₁, moves, hf₁, heq⟩ := h.2 i _ (List.getElem?_eq_getElem hi)
  rw [hf', Option.some.injEq] at hf₁
  exact ⟨_, moves, List.getElem?_eq_getElem hi, hf₁ ▸ heq⟩

theorem hitsMove_updateFinder {w : World α} {finder : FinderId} {g : Finder α → Finder α}
    (hg : ∀ f, w.finders[finder]? = some f → ∃ moves, (g f).hits = f.hits.run moves) :
    HitsMove w (w.updateFinder finder g) := by
  refine ⟨List.length_modify .., fun i f hf ↦ ?_⟩
  by_cases hi : finder = i
  · subst hi
    obtain ⟨moves, hmoves⟩ := hg f hf
    exact ⟨g f, moves, (Exchange.getElem?_modify_of_some hf _ g).trans (by rw [if_pos rfl]), hmoves⟩
  · exact ⟨f, [], (Exchange.getElem?_modify_of_some hf _ g).trans (by rw [if_neg hi]), rfl⟩

theorem hitsMove_stepWith {step : Hits α → Except Fault (α × Hits α)} {m : Move α}
    (hm : ∀ h : Hits α, h.after m = (step h).toOption.elim h (·.2)) (w : World α)
    (finder : FinderId) : HitsMove w (w.stepWith finder step).2 := by
  rw [stepWith]
  split
  · exact .of_eq rfl
  · rename_i f hf
    split
    · rename_i a hits hok
      refine hitsMove_updateFinder fun f' hf' ↦ ⟨[m], ?_⟩
      rw [hf, Option.some.injEq] at hf'
      subst hf'
      rw [Hits.run_cons, Hits.run_nil, hm, hok]
      rfl
    · exact .of_eq rfl

theorem hitsMove_apply (w : World α) (finder : FinderId) (view : Option ViewId) (c : Change α) :
    HitsMove w (w.apply finder view c).2 := by
  rw [apply]
  split
  · exact .of_eq rfl
  · rename_i f hf
    refine (hitsMove_updateFinder fun f' hf' ↦ ⟨[.change (w.viewClosed view) c], ?_⟩).trans
      (.of_eq rfl)
    rw [hf, Option.some.injEq] at hf'
    subst hf'
    rfl

theorem hitsMove_follow (w : World α) (finder : FinderId) (feed : FeedId) (view : Option ViewId) :
    HitsMove w (w.follow finder feed view).2 := by
  rcases w.follow_cases finder feed view with
    ⟨-, -, heq | heq⟩ | ⟨-, f, notes, -, -, -, -, -, -, heq⟩ <;> rw [heq]
  · exact .of_eq rfl
  · exact .of_eq rfl
  · have hlink : HitsMove w (w.updateFinder finder fun f' ↦
        { f' with link := some ⟨feed, f.nextNumber, w.couriers.length⟩ }) :=
      hitsMove_updateFinder fun _ _ ↦ ⟨[], rfl⟩
    exact hlink.trans (.of_eq rfl)

theorem hitsMove_unlink (w : World α) (finder : FinderId) (link : Link) :
    HitsMove w (w.unlink finder link) :=
  hitsMove_updateFinder (w := { w with exchange := _ }) fun _ _ ↦ ⟨[], rfl⟩

theorem hitsMove_retire (w : World α) (finder : FinderId) : HitsMove w (w.retire finder) := by
  have hretired : HitsMove w (w.updateFinder finder fun f ↦ { f with hits := f.hits.retire }) :=
    hitsMove_updateFinder fun _ _ ↦ ⟨[.retire], rfl⟩
  rw [retire]
  split
  · exact .of_eq rfl
  · split
    · exact hretired
    · exact (hretired.trans (hitsMove_unlink _ _ _)).trans (.of_eq rfl)

theorem hitsMove_finish (w : World α) (courier : CourierId) (c : Courier) :
    HitsMove w (w.finish courier c) := by
  rw [finish]
  split
  · exact .of_eq rfl
  · split
    · exact .of_eq rfl
    · split
      · exact (hitsMove_unlink w _ _).trans (.of_eq rfl)
      · exact .of_eq rfl

theorem hitsMove_carry (w : World α) (courier : CourierId) : HitsMove w (w.carry courier).2 := by
  have hcarries := w.carries_carry courier
  generalize (w.carry courier).2 = w' at hcarries ⊢
  cases hcarries with
  | idle | putAway => exact .of_eq rfl
  | finish => exact hitsMove_finish _ _ _
  | lose => exact (HitsMove.of_eq rfl).trans (hitsMove_finish (w.withReceived _) _ _)
  | @refuse c change =>
    have happly := hitsMove_apply (w.withReceived c.mailbox) c.finder c.view change
    exact ((HitsMove.of_eq rfl).trans happly).trans (hitsMove_finish _ _ _)
  | @bring c change =>
    exact (HitsMove.of_eq rfl).trans (hitsMove_apply (w.withReceived c.mailbox) c.finder c.view _)

/-- An action makes a new finder, or leaves all finders and moves their hits at most. -/
theorem act_cases (w : World α) (a : Action α) :
    HitsMove w (w.act a) ∨
      ∃ hits : Hits α, hits.Reachable ∧ w.act a = (w.addFinder hits).2 := by
  cases a with
  | search q collection => exact .inr ⟨_, .ofSearch q collection, rfl⟩
  | track q matched start =>
    rw [act]
    split
    · rename_i hits hok
      exact .inr ⟨hits, .ofMatches hok, rfl⟩
    · exact .inl (.of_eq rfl)
  | next finder => exact .inl (hitsMove_stepWith (m := .next) (fun _ ↦ rfl) w finder)
  | previous finder => exact .inl (hitsMove_stepWith (m := .previous) (fun _ ↦ rfl) w finder)
  | apply finder view c => exact .inl (hitsMove_apply w finder view c)
  | follow finder feed view => exact .inl (hitsMove_follow w finder feed view)
  | retire finder => exact .inl (hitsMove_retire w finder)
  | drop finder =>
    exact .inl ((hitsMove_retire w finder).trans (hitsMove_updateFinder fun _ _ ↦ ⟨[], rfl⟩))
  | carry courier => exact .inl (hitsMove_carry w courier)
  | exchange a =>
    obtain ⟨notes, heq⟩ := w.exists_act_exchange a
    exact .inl (.of_eq (by rw [heq]))
  | openView | closeView => exact .inl (.of_eq rfl)

/-! ### The hits of reachable worlds -/

theorem Reachable.hits_reachable {w : World α} (hw : w.Reachable) :
    ∀ f ∈ w.finders, f.hits.Reachable := by
  induction hw with
  | empty => simp
  | @act w a hw ih =>
    intro f' hf'
    rcases w.act_cases a with hmove | ⟨hits, hhits, hadd⟩
    · obtain ⟨i, hi⟩ := List.mem_iff_getElem?.1 hf'
      obtain ⟨f, moves, hf, heq⟩ := hmove.exists_of_some hi
      rw [heq]
      exact (ih f (List.mem_of_getElem? hf)).run moves
    · rw [hadd] at hf'
      rcases List.mem_append.1 hf' with hf' | hf'
      · exact ih f' hf'
      · rw [List.mem_singleton.1 hf']
        exact hhits

variable [EquivBEq α] [LawfulHashable α]

/-- In every reachable world the hits of every finder are sound. So stepping never looks at an index
out of range, and removing an item that the set contains always finds it among the items. -/
theorem Reachable.hits_sound {w : World α} (hw : w.Reachable) {f : Finder α} (hf : f ∈ w.finders) :
    f.hits.Sound ∧ (f.hits.items = [] → f.hits.cursor = -1) ∧
      (∀ index length, f.hits.next ≠ .error (.placeOutOfRange index length)) ∧
      (∀ index length, f.hits.previous ≠ .error (.placeOutOfRange index length)) ∧
      (∀ a, f.hits.members.contains a = true →
        ∃ index wasCurrent, (f.hits.remove a).1 = .removed index wasCurrent) := by
  have hs := (hw.hits_reachable f hf).sound
  refine ⟨hs, fun hnil ↦ ?_, fun index length hbad ↦ ?_, fun index length hbad ↦ ?_, fun a ha ↦ ?_⟩
  · have hle := hs.neg_one_le_cursor
    have hlt := hs.cursor_lt
    rw [hnil, List.length_nil] at hlt
    omega
  · rcases hs.next_cases with ⟨-, hnext⟩ | ⟨i, hi, -, hnext⟩ <;> rw [hnext] at hbad <;> cases hbad
  · rcases hs.previous_cases with ⟨-, hprevious⟩ | ⟨i, hi, -, hprevious⟩ <;>
      rw [hprevious] at hbad <;> cases hbad
  · obtain ⟨i, hi, -, -, hremove⟩ := hs.remove_of_contains ha
    exact ⟨i, _, by rw [hremove]⟩

/-- A finder follows a feed with room for one change, is changed through its courier and directly
while another change waits, and is dropped in between. -/
theorem hits_sound_nodes :
    let row : Node := { id := "node:1", kind := "filter", label := "Row" }
    let w := ({} : World Node).run
      [.exchange (.openFeed 1), .search (.ofText .default "Filter") [row, row], .follow 0 0 none,
        .exchange (.announce 0 .other), .exchange (.advance 0), .exchange (.advance 0),
        .exchange (.announce 0 (.removed row)), .exchange (.advance 1), .exchange (.advance 1),
        .carry 0, .exchange (.advance 1), .apply 0 none (.removed row), .drop 0, .carry 0,
        .apply 0 none (.added row)]
    ∃ f ∈ w.finders, f.gone = true ∧ f.hits.Sound ∧ (f.hits.items = [] → f.hits.cursor = -1) := by
  intro row w
  have hany : w.finders.any (·.gone) = true := by decide +kernel
  obtain ⟨f, hf, hgone⟩ := List.any_eq_true.1 hany
  obtain ⟨hs, hcursor, -⟩ := Reachable.hits_sound (Reachable.empty.run _) hf
  exact ⟨f, hf, hgone, hs, hcursor⟩

end World

end LiveFind
