import LiveFind.Proofs.Exchange.History
import Mathlib.Data.List.Range

/-!
# The numbers that a feed gives out

A feed gives each new subscription its next number, and nothing else takes a number from it
(`issuing_cases`). A number is lost if the mailbox that goes with it cannot be made. A feed whose
mailboxes can be made counts (`countsUp_act`). Any feed gives out larger and larger numbers
(`issued_ascends`), and so none of them twice; and since it has given out one for each attempt to
subscribe at most, there are 64-bit numbers enough for fewer than 2⁶⁴ attempts.
-/

namespace LiveFind

/-- The numbers are those from `n` on in order, and `n'` is the next one. -/
def CountsUp (n n' : Nat) (numbers : List Nat) : Prop :=
  ∃ count, n' = n + count ∧ numbers = List.range' n count

theorem CountsUp.refl (n : Nat) : CountsUp n n [] :=
  ⟨0, rfl, rfl⟩

theorem CountsUp.single (n : Nat) : CountsUp n (n + 1) [n] :=
  ⟨1, rfl, rfl⟩

theorem CountsUp.append {n n' n'' : Nat} {numbers numbers' : List Nat}
    (h : CountsUp n n' numbers) (h' : CountsUp n' n'' numbers') :
    CountsUp n n'' (numbers ++ numbers') := by
  obtain ⟨count, rfl, rfl⟩ := h
  obtain ⟨count', rfl, rfl⟩ := h'
  exact ⟨count + count', Nat.add_assoc .., List.range'_append_1⟩

theorem CountsUp.le_and_lt_of_mem {n n' k : Nat} {numbers : List Nat}
    (h : CountsUp n n' numbers) (hk : k ∈ numbers) : n ≤ k ∧ k < n' := by
  obtain ⟨count, rfl, rfl⟩ := h
  exact List.mem_range'_1.1 hk

namespace Exchange

variable {α : Type} {x : Exchange α} {feed : FeedId} {f : Feed}

/-- The mailboxes that the feed provides for can be made. -/
def Accepts (x : Exchange α) (feed : FeedId) : Prop :=
  ∀ f, x.feeds[feed]? = some f → f.capacity ≤ bufferLimit

/-- The number that the next subscription of a feed takes. -/
def nextOf (x : Exchange α) (feed : FeedId) : Nat :=
  (x.feeds[feed]?).elim 1 (·.nextNumber)

/-- The number of the subscription that an action makes, if it makes one of the feed. -/
def issuing (x : Exchange α) (feed : FeedId) : Action α → List Nat
  | .subscribe feed' =>
    if feed' = feed then (x.subscribe feed).1.toOption.toList.map (·.number) else []
  | _ => []

/-- The numbers of the subscriptions of a feed that a run makes, in order. -/
def issued (x : Exchange α) (feed : FeedId) (actions : List (Action α)) : List Nat :=
  noted (·.issuing feed) x actions

/-- Whether an action is an attempt to subscribe to the feed. -/
def Action.subscribes (feed : FeedId) : Action α → Bool
  | .subscribe feed' => feed' == feed
  | _ => false

/-! ### The next number -/

theorem nextOf_of_some (hf : x.feeds[feed]? = some f) : x.nextOf feed = f.nextNumber := by
  rw [nextOf, hf, Option.elim_some]

theorem nextOf_updateFeed {g : Feed → Feed} (hg : ∀ f, (g f).nextNumber = f.nextNumber)
    (i : FeedId) : (x.updateFeed i g).nextOf feed = x.nextOf feed := by
  rw [nextOf, nextOf, updateFeed, List.getElem?_modify]
  cases x.feeds[feed]? with
  | none => rfl
  | some f => by_cases hi : i = feed <;> simp [hi, hg]

theorem nextOf_updateFeed_of_ne {i : FeedId} (hi : i ≠ feed) (g : Feed → Feed) :
    (x.updateFeed i g).nextOf feed = x.nextOf feed := by
  rw [nextOf, updateFeed, List.getElem?_modify_ne _ _ hi, nextOf]

/-- A new feed has given out no number, as one that there is not. -/
theorem nextOf_openFeed (x : Exchange α) (capacity : Nat) :
    (x.openFeed capacity).2.nextOf feed = x.nextOf feed := by
  cases hf : x.feeds[feed]? with
  | some f => rw [nextOf_of_some hf, nextOf_of_some (getElem?_concat_of_some hf _)]
  | none =>
    cases hf' : (x.openFeed capacity).2.feeds[feed]? with
    | none => rw [nextOf, nextOf, hf, hf']
    | some f' =>
      rcases getElem?_concat_cases hf' with hold | ⟨-, rfl⟩
      · rw [hf] at hold
        cases hold
      · rw [nextOf, nextOf, hf, hf', Option.elim_some, Option.elim_none]

/-- Only a subscription takes a number. -/
theorem nextOf_act_of_ne {a : Action α} (ha : ∀ i, a ≠ .subscribe i) :
    (x.act a).nextOf feed = x.nextOf feed := by
  cases a with
  | openFeed capacity => exact x.nextOf_openFeed capacity
  | hold i | release i | close i | unsubscribe i =>
    refine nextOf_updateFeed (fun _ ↦ ?_) i
    rfl
  | subscribe i => exact absurd rfl (ha i)
  | receive m => rw [nextOf, nextOf, x.feeds_act_receive m]
  | discard | announce => rfl
  | advance i =>
    have hadvances := x.advances_advance i
    rw [act]
    generalize (x.advance i).2.2 = x' at hadvances ⊢
    cases hadvances with
    | idle | fix | pass | serve | await => rfl
    | @finish b =>
      refine nextOf_updateFeed (fun _ ↦ ?_) b.feed
      rfl
  | abandon i =>
    rw [act, abandon]
    split
    · rfl
    · split <;> rfl

theorem nextOf_subscribe_of_ne {i : FeedId} (hi : i ≠ feed) :
    (x.act (.subscribe i)).nextOf feed = x.nextOf feed := by
  rw [act]
  rcases x.subscribe_cases i with ⟨-, -, heq | heq⟩ | ⟨f, -, -, heq⟩ <;> rw [heq]
  · exact nextOf_updateFeed_of_ne hi _
  · exact nextOf_updateFeed_of_ne (x := { x with mailboxes := _ }) hi _

/-! ### The numbers given out -/

theorem issuing_subscribe_of_error {i : FeedId} {fault : Fault}
    (h : (x.subscribe i).1 = .error fault) : x.issuing feed (.subscribe i) = [] := by
  rw [issuing]
  split
  · rw [← ‹i = feed›, h]
    rfl
  · rfl

/-- What a feed answers to who wants to subscribe. -/
theorem subscribe_of_some (hf : x.feeds[feed]? = some f) : x.subscribe feed =
    if f.closed then (.error .feedClosed, x)
    else if bufferLimit < f.capacity then
      (.error .bufferTooLarge, x.updateFeed feed fun f ↦ { f with nextNumber := f.nextNumber + 1 })
    else (.ok ⟨f.nextNumber, x.mailboxes.length⟩, x.withSubscription feed f) := by
  rw [subscribe, hf]
  rfl

/-- An action leaves the numbers of a feed alone, or it takes the next one and gives it out. It
gives nothing out if the mailbox cannot be made. -/
theorem issuing_cases (x : Exchange α) (feed : FeedId) (a : Action α) :
    (x.act a).nextOf feed = x.nextOf feed ∧ x.issuing feed a = [] ∨
      (x.act a).nextOf feed = x.nextOf feed + 1 ∧ a.subscribes feed = true ∧
        (x.issuing feed a = [x.nextOf feed] ∨ x.issuing feed a = [] ∧ ¬x.Accepts feed) := by
  by_cases ha : a = .subscribe feed
  · subst ha
    cases hf : x.feeds[feed]? with
    | none =>
      have hnone : x.subscribe feed = (.error .feedClosed, x) := by rw [subscribe, hf]
      exact .inl ⟨by rw [act, hnone], issuing_subscribe_of_error (by rw [hnone])⟩
    | some f =>
      have hanswer := subscribe_of_some hf
      split at hanswer
      · exact .inl ⟨by rw [act, hanswer], issuing_subscribe_of_error (by rw [hanswer])⟩
      · refine .inr ⟨?_, beq_self_eq_true feed, ?_⟩
        · rw [act, hanswer, nextOf_of_some hf]
          split <;> rw [nextOf_of_some (getElem?_modify_of_some hf feed _), if_pos rfl]
        · split at hanswer
          · rename_i hlarge
            refine .inr ⟨issuing_subscribe_of_error (by rw [hanswer]), fun haccepts ↦ ?_⟩
            exact absurd (haccepts f hf) (Nat.not_le.2 hlarge)
          · exact .inl (by rw [issuing, if_pos rfl, hanswer, nextOf_of_some hf]; rfl)
  · left
    cases a with
    | subscribe i =>
      have hi : i ≠ feed := fun hi ↦ ha (hi ▸ rfl)
      exact ⟨nextOf_subscribe_of_ne hi, if_neg hi⟩
    | _ => exact ⟨nextOf_act_of_ne fun i h ↦ (by cases h), rfl⟩

/-- Every action gives out the next number of a feed at most. -/
theorem countsUp_act (hx : x.Accepts feed) (a : Action α) :
    CountsUp (x.nextOf feed) ((x.act a).nextOf feed) (x.issuing feed a) := by
  rcases x.issuing_cases feed a with ⟨hnext, hnone⟩ | ⟨hnext, -, hone | ⟨-, hnot⟩⟩
  · rw [hnext, hnone]
    exact .refl _
  · rw [hnext, hone]
    exact .single _
  · exact absurd hx hnot

/-- The numbers that a run gives out ascend, from the next one before to below the next one after
it. -/
theorem issued_ascends (x : Exchange α) (feed : FeedId) (actions : List (Action α)) :
    (x.issued feed actions).Pairwise (· < ·) ∧ x.nextOf feed ≤ (x.run actions).nextOf feed ∧
      ∀ n ∈ x.issued feed actions, x.nextOf feed ≤ n ∧ n < (x.run actions).nextOf feed := by
  induction actions generalizing x with
  | nil => exact ⟨.nil, Nat.le_refl _, fun n hn ↦ by cases hn⟩
  | cons a actions ih =>
    obtain ⟨hascends, hle, hbounds⟩ := ih (x.act a)
    rw [issued, noted, ← issued, run_cons]
    rcases x.issuing_cases feed a with ⟨hnext, hnone⟩ | ⟨hnext, -, hone | ⟨hnone, -⟩⟩
    · rw [hnext] at hle hbounds
      rw [hnone]
      exact ⟨hascends, hle, hbounds⟩
    · rw [hnext] at hle hbounds
      rw [hone]
      refine ⟨List.pairwise_cons.2 ⟨fun n hn ↦ (hbounds n hn).1, hascends⟩, Nat.le_of_succ_le hle,
        List.forall_mem_cons.2 ⟨⟨Nat.le_refl _, hle⟩, fun n hn ↦ ?_⟩⟩
      exact ⟨Nat.le_of_succ_le (hbounds n hn).1, (hbounds n hn).2⟩
    · rw [hnext] at hle hbounds
      rw [hnone]
      exact ⟨hascends, Nat.le_of_succ_le hle,
        fun n hn ↦ ⟨Nat.le_of_succ_le (hbounds n hn).1, (hbounds n hn).2⟩⟩

/-- A feed takes one number for each attempt to subscribe at most. -/
theorem nextOf_run_le (x : Exchange α) (feed : FeedId) (actions : List (Action α)) :
    (x.run actions).nextOf feed ≤ x.nextOf feed + actions.countP (·.subscribes feed) := by
  induction actions generalizing x with
  | nil => exact Nat.le_refl _
  | cons a actions ih =>
    have hle := ih (x.act a)
    rw [run_cons, List.countP_cons]
    rcases x.issuing_cases feed a with ⟨hnext, -⟩ | ⟨hnext, hsubscribes, -⟩
    · omega
    · rw [if_pos hsubscribes]
      omega

end Exchange

end LiveFind
