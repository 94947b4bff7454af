import LiveFind.Proofs.World.Frozen

/-!
# Changes after a view is closed

Closing a view ends none of the links that are for it. Their couriers go on until they bring an item
that comes or goes: the hits drop it, and the courier ends the link in the same step
(`Linked.carry_of_closed`). Other changes are no reason to end it. They concern no hits, so nobody
asks whether the view is closed, and the courier goes on to the next one (`Linked.carry_of_other`).

So what a courier takes after its view was closed is a number of other changes, and after those at
most one item that comes or goes (`Linked.taken_of_closed`).
-/

namespace LiveFind

namespace World

variable {α : Type} [BEq α] [Hashable α] [Findable α] {w : World α} {number : MailboxId → Nat}
  {j : CourierId} {c : Courier}

/-- The change that a courier takes from its mailbox by an action. -/
def taking (w : World α) (j : CourierId) : Action α → List (Change α)
  | .carry j' =>
    if j' = j then
      (w.couriers[j]?).elim [] fun c ↦
        if c.stage = .running then (w.exchange.queued c.mailbox).take 1 else []
    else []
  | _ => []

/-- The changes that a courier takes from its mailbox in a run, in order. -/
def taken (w : World α) (j : CourierId) : List (Action α) → List (Change α)
  | [] => []
  | a :: actions => w.taking j a ++ (w.act a).taken j actions

/-! ### One step -/

omit [Findable α] in
theorem Linked.linkOf_finish (hw : w.Linked number) (hc : w.couriers[j]? = some c)
    (hstage : c.stage = .running) : (w.finish j c).linkOf c.finder = none ∧
      (w.finish j c).exchange.isRead c.mailbox = false := by
  obtain ⟨f, feed, notes, hf, -, -, heq⟩ := hw.finish_eq_detach hc hstage
  rw [heq]
  refine ⟨?_, Exchange.isRead_discard⟩
  show ((w.finders.modify c.finder _)[c.finder]?).bind _ = none
  rw [List.getElem?_modify_eq, hf]
  rfl

/-- A courier whose view is closed comes to an end if it finds an item that comes or goes. Its link
ends with it, its subscription is not listed any more, and nobody reads its mailbox. -/
theorem Linked.carry_of_closed (hw : w.Linked number) (hc : w.couriers[j]? = some c)
    (hstage : c.stage = .running) (hview : w.viewClosed c.view = true) {change : Change α}
    {rest : List (Change α)} (hqueue : w.exchange.queued c.mailbox = change :: rest)
    (hchange : change ≠ .other) :
    (w.act (.carry j)).couriers[j]? = some { c with stage := .ended } ∧
      (w.act (.carry j)).linkOf c.finder = none ∧
      (∀ feed n, (n, c.mailbox) ∉ (w.act (.carry j)).exchange.subscribersOf feed) ∧
      (w.act (.carry j)).exchange.isRead c.mailbox = false := by
  obtain ⟨f, -, hf, -, -⟩ := hw.running hc hstage
  have hdropped : ((w.withReceived c.mailbox).apply c.finder c.view change).1 = .dropped :=
    (apply_eq_dropped_iff (w := w.withReceived c.mailbox) hf c.view change).2
      ⟨.inr hview, hchange⟩
  rcases hw.carry_of_queued hc hstage hqueue with ⟨-, heq⟩ | ⟨hne, -⟩
  · have hw' := (hw.withReceived c.mailbox).apply c.finder c.view change
    have hfinders := finders_apply_of_closed (w := w.withReceived c.mailbox) hview c.finder change
    have hcouriers := couriers_apply (w.withReceived c.mailbox) c.finder c.view change
    generalize ((w.withReceived c.mailbox).apply c.finder c.view change).2 = w' at *
    have hc' : w'.couriers[j]? = some c := hcouriers ▸ hc
    have hf' : w'.finders[c.finder]? = some f := hfinders ▸ hf
    rw [heq]
    obtain ⟨hlink, hread⟩ := hw'.linkOf_finish hc' hstage
    refine ⟨?_, hlink, hw'.not_mem_subscribersOf_finish hc' hstage, hread⟩
    rw [couriers_finish]
    exact (Exchange.getElem?_modify_of_some hc' j _).trans (by rw [if_pos rfl])
  · exact absurd hdropped hne

/-- Any other change the courier takes, and goes on. -/
theorem Linked.carry_of_other (hw : w.Linked number) (hc : w.couriers[j]? = some c)
    (hstage : c.stage = .running) {rest : List (Change α)}
    (hqueue : w.exchange.queued c.mailbox = .other :: rest) :
    (w.act (.carry j)).couriers = w.couriers ∧ (w.act (.carry j)).finders = w.finders ∧
      (w.act (.carry j)).exchange = w.exchange.act (.receive c.mailbox) := by
  rcases hw.carry_of_queued hc hstage hqueue with ⟨hdropped, -⟩ | ⟨-, heq⟩
  · obtain ⟨f, -, hf, -, -⟩ := hw.running hc hstage
    exact absurd rfl ((apply_eq_dropped_iff (w := w.withReceived c.mailbox) hf _ _).1 hdropped).2
  · rw [heq]
    refine ⟨couriers_apply _ _ _ _, ?_, exchange_apply _ _ _ _⟩
    rw [finders_apply]
    exact modify_eq_self_of_fix fun _ _ ↦ rfl

/-! ### Runs -/

omit [Findable α] in
theorem taking_cases (hc : w.couriers[j]? = some c) (hstage : c.stage = .running) (a : Action α) :
    w.taking j a = [] ∨ ∃ change rest, a = .carry j ∧
      w.exchange.queued c.mailbox = change :: rest ∧ w.taking j a = [change] := by
  cases a with
  | carry j' =>
    by_cases hj : j' = j
    · subst hj
      rw [taking, if_pos rfl, hc, Option.elim_some, if_pos hstage]
      cases hqueue : w.exchange.queued c.mailbox with
      | nil => exact .inl rfl
      | cons change rest => exact .inr ⟨change, rest, rfl, rfl, rfl⟩
    · exact .inl (if_neg hj)
  | _ => exact .inl rfl

omit [Findable α] in
theorem taking_eq_nil_of_ne (hc : w.couriers[j]? = some c) (hstage : c.stage ≠ .running)
    (a : Action α) : w.taking j a = [] := by
  cases a with
  | carry j' =>
    rw [taking, hc, Option.elim_some, if_neg hstage, ite_self]
  | _ => rfl

/-- Who is out of work takes nothing. -/
theorem Linked.taken_of_ne (hw : w.Linked number) (hc : w.couriers[j]? = some c)
    (hstage : c.stage ≠ .running) {later : List (Action α)} (hlater : w.Obeys Possible later) :
    w.taken j later = [] ∧ ∃ stage, stage ≠ .running ∧
      (w.run later).couriers[j]? = some { c with stage } := by
  induction later generalizing w c number with
  | nil => exact ⟨rfl, c.stage, hstage, hc⟩
  | cons a later ih =>
    obtain ⟨number', hw'⟩ := hw.act hlater.1
    obtain ⟨stage, hc', hcases⟩ := hw.keepsUnless_act hc a
    have hstage' : stage ≠ .running := by
      rcases hcases with rfl | ⟨hne, -⟩
      · exact hstage
      · exact hne
    obtain ⟨hnil, hend⟩ := ih hw' hc' hstage' hlater.2
    exact ⟨List.append_eq_nil_iff.2 ⟨taking_eq_nil_of_ne hc hstage a, hnil⟩, hend⟩

/-- After its view was closed a courier takes other changes, and at most one item that comes or
goes, with which it comes to an end. -/
theorem Linked.taken_of_closed (hw : w.Linked number) (hc : w.couriers[j]? = some c)
    (hstage : c.stage = .running) (hview : w.viewClosed c.view = true) {later : List (Action α)}
    (hlater : w.Obeys Possible later) :
    ∃ k, w.taken j later = List.replicate k .other ∨ ∃ change, change ≠ .other ∧
      w.taken j later = List.replicate k .other ++ [change] ∧ ∃ stage, stage ≠ .running ∧
        (w.run later).couriers[j]? = some { c with stage } := by
  induction later generalizing w number with
  | nil => exact ⟨0, .inl rfl⟩
  | cons a later ih =>
    obtain ⟨number', hw'⟩ := hw.act hlater.1
    have hview' := viewClosed_act hview a
    -- the courier goes on as it is, having taken nothing or another change
    have hgoes : ∀ {k}, (w.act a).couriers[j]? = some c → w.taking j a = List.replicate k .other →
        ∃ k, w.taken j (a :: later) = List.replicate k .other ∨ ∃ change, change ≠ .other ∧
          w.taken j (a :: later) = List.replicate k .other ++ [change] ∧ ∃ stage,
            stage ≠ .running ∧ (w.run (a :: later)).couriers[j]? = some { c with stage } := by
      intro k hc' htaking
      obtain ⟨k', htaken | ⟨change, hchange, htaken, hend⟩⟩ := ih hw' hc' hview' hlater.2
      · refine ⟨k + k', .inl ?_⟩
        rw [taken, htaking, htaken, List.replicate_append_replicate]
      · refine ⟨k + k', .inr ⟨change, hchange, ?_, hend⟩⟩
        rw [taken, htaking, htaken, ← List.append_assoc, List.replicate_append_replicate]
    rcases taking_cases hc hstage a with hnone | ⟨change, rest, rfl, hqueue, htaking⟩
    · obtain ⟨stage, hc', rfl | ⟨hne, -⟩⟩ := hw.keepsUnless_act hc a
      · exact hgoes (k := 0) hc' hnone
      · refine ⟨0, .inl ?_⟩
        rw [taken, hnone, (hw'.taken_of_ne hc' hne hlater.2).1]
        rfl
    · by_cases hchange : change = .other
      · subst hchange
        exact hgoes (k := 1) ((hw.carry_of_other hc hstage hqueue).1.symm ▸ hc) htaking
      · obtain ⟨hc', -⟩ := hw.carry_of_closed hc hstage hview hqueue hchange
        obtain ⟨hnil, hend⟩ := hw'.taken_of_ne hc' CourierStage.noConfusion hlater.2
        refine ⟨0, .inr ⟨change, hchange, ?_, hend⟩⟩
        rw [taken, htaking, hnil]
        rfl

/-! ### Every run -/

/-- Changes are dropped exactly if the hits are retired or the view is closed, unless they are other
changes than items that come or go. So a courier whose view is closed comes to an end, with its link
and its subscription, by the first such item that it finds in its mailbox, and takes nothing more.
Other changes it takes and goes on. -/
theorem refused_after_close {actions : List (Action α)}
    (h : ({} : World α).Obeys Possible actions) :
    (∀ (w : World α) i f view change, w.finders[i]? = some f →
      ((w.apply i view change).1 = .dropped ↔
        (f.hits.retired = true ∨ w.viewClosed view = true) ∧ change ≠ .other)) ∧
    let w := ({} : World α).run actions
    ∀ j c, w.couriers[j]? = some c → c.stage = .running → w.viewClosed c.view = true →
      (∀ change rest, w.exchange.queued c.mailbox = change :: rest →
        let w' := w.act (.carry j)
        (change ≠ .other → w'.couriers[j]? = some { c with stage := .ended } ∧
          w'.linkOf c.finder = none ∧
          (∀ feed n, (n, c.mailbox) ∉ w'.exchange.subscribersOf feed) ∧
          w'.exchange.isRead c.mailbox = false) ∧
        (change = .other → w'.couriers = w.couriers ∧ w'.finders = w.finders ∧
          w'.exchange = w.exchange.act (.receive c.mailbox))) ∧
      ∀ later, w.Obeys Possible later →
        ∃ k, w.taken j later = List.replicate k .other ∨ ∃ change, change ≠ .other ∧
          w.taken j later = List.replicate k .other ++ [change] ∧ ∃ stage, stage ≠ .running ∧
            (w.run later).couriers[j]? = some { c with stage } := by
  refine ⟨fun w i f view change hf ↦ apply_eq_dropped_iff hf view change, ?_⟩
  intro w j c hc hstage hview
  obtain ⟨number, hw⟩ := exists_linked_run (linked_empty fun _ ↦ 0) h
  refine ⟨fun change rest hqueue ↦ ⟨hw.carry_of_closed hc hstage hview hqueue, ?_⟩,
    fun later ↦ hw.taken_of_closed hc hstage hview⟩
  rintro rfl
  exact hw.carry_of_other hc hstage hqueue

/-- Two changes wait in a mailbox when the view is closed: another change, and an item that goes. -/
theorem refused_after_close_nodes :
    let row : Node := { id := "node:1", kind := "filter", label := "Row" }
    let actions : List (Action Node) :=
      [.exchange (.openFeed 2), .openView, .search (.ofText .default "filter") [row],
        .follow 0 0 (some 0), .exchange (.announce 0 .other),
        .exchange (.announce 0 (.removed row)), .exchange (.advance 0), .exchange (.advance 0),
        .exchange (.advance 1), .exchange (.advance 1), .closeView 0]
    let later : List (Action Node) := [.carry 0, .carry 0, .carry 0]
    let w := ({} : World Node).run actions
    (w.exchange.queued 0).length = 2 ∧ (w.taken 0 later).length = 2 ∧
      (w.run later).linkOf 0 = none ∧
      (∃ k, w.taken 0 later = List.replicate k .other ∨ ∃ change, change ≠ .other ∧
        w.taken 0 later = List.replicate k .other ++ [change] ∧ ∃ stage, stage ≠ .running ∧
          (w.run later).couriers[0]? = some
            { finder := 0, mailbox := 0, number := 1, view := some 0, stage }) := by
  intro row actions later w
  have hactions : ({} : World Node).Obeys Possible actions := by decide +kernel
  have hcourier : w.couriers[0]? =
      some { finder := 0, mailbox := 0, number := 1, view := some 0 } := by decide +kernel
  have hclosed : w.viewClosed (some 0) = true := by decide +kernel
  have hlater : w.Obeys Possible later := by decide +kernel
  have hqueued : (w.exchange.queued 0).length = 2 := by decide +kernel
  have htaken : (w.taken 0 later).length = 2 := by decide +kernel
  have hlink : (w.run later).linkOf 0 = none := by decide +kernel
  obtain ⟨-, hcouriers⟩ := refused_after_close hactions
  -- what the run leads to is known now, and need not be computed again
  clear_value actions later
  exact ⟨hqueued, htaken, hlink, (hcouriers 0 _ hcourier rfl hclosed).2 later hlater⟩

/-- A change that is no item that comes or goes is not dropped for a closed view, and the courier
that brings it goes on: its finder is linked still, and its subscription listed. -/
theorem exists_taken_after_close :
    let w := ({} : World Node).run
      [.exchange (.openFeed 1), .openView, .search (.ofText .default "filter") [],
        .follow 0 0 (some 0), .exchange (.announce 0 .other), .exchange (.advance 0),
        .exchange (.advance 0), .closeView 0]
    let w' := w.act (.carry 0)
    w.viewClosed (some 0) = true ∧ (w.apply 0 (some 0) .other).1 = .ignored ∧
      (w.taken 0 [.carry 0]).length = 1 ∧ w'.linkOf 0 = some ⟨0, 1, 0⟩ ∧ w'.AtWork 0 0 ∧
      (1, 0) ∈ w'.exchange.subscribersOf 0 := by
  intro w w'
  have hclosed : w.viewClosed (some 0) = true := by decide +kernel
  have hignored : (w.apply 0 (some 0) .other).1 = .ignored := by decide +kernel
  have htaken : (w.taken 0 [.carry 0]).length = 1 := by decide +kernel
  have hlink : w'.linkOf 0 = some ⟨0, 1, 0⟩ := by decide +kernel
  have hcourier : w'.couriers[0]? =
      some { finder := 0, mailbox := 0, number := 1, view := some 0 } := by decide +kernel
  have hlisted : (1, 0) ∈ w'.exchange.subscribersOf 0 := by decide +kernel
  exact ⟨hclosed, hignored, htaken, hlink, ⟨_, hcourier, rfl, rfl⟩, hlisted⟩

end World

end LiveFind
