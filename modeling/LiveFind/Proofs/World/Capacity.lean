import LiveFind.Proofs.World.Following
import LiveFind.Settings

/-!
# Feeds of any capacity

A feed can be opened with any capacity, and keeps it for good. Whether a mailbox of that size can be
made is asked only when somebody subscribes: up to `bufferLimit` it can, and the feed takes
subscriptions as long as it is open. A feed with a larger capacity never takes any
(`subscribe_decided`). Capacities come from the settings, which raise a buffer of size zero to one,
and let large ones pass (`exists_buffer_too_large`).
-/

namespace LiveFind

theorem Settings.le_bufferLimit_iff (s : Settings) :
    s.effectiveBuffer ≤ bufferLimit ↔ s.buffer ≤ bufferLimit := by
  have hone : 1 ≤ bufferLimit := by decide
  rw [effectiveBuffer]
  omega

namespace World

variable {α : Type} [BEq α] [Hashable α] [Findable α] {w : World α}

omit [Findable α] in
/-- Who is free to follow a feed gets the answer that the feed gives to a subscriber. -/
theorem follow_of_free {i : FinderId} {f : Finder α} (hf : w.finders[i]? = some f)
    (hretired : f.hits.retired = false) (hlink : f.link = none) (feed : FeedId)
    (view : Option ViewId) :
    (w.follow i feed view).1 = (w.exchange.subscribe feed).1.map fun _ ↦ () := by
  rw [follow, hf]
  dsimp only
  rw [hretired, if_neg Bool.false_ne_true, hlink, Option.isSome_none, if_neg Bool.false_ne_true]
  split <;> rename_i heq <;> rw [heq] <;> rfl

/-- A feed keeps the capacity that it was opened with. -/
theorem exists_feed_of_openFeed (w : World α) (n : Nat) (later : List (Action α)) :
    ∃ fd, ((w.act (.exchange (.openFeed n))).run later).exchange.feeds[w.exchange.feeds.length]? =
      some fd ∧ fd.capacity = max n 1 := by
  have hopened : (w.act (.exchange (.openFeed n))).exchange.feeds[w.exchange.feeds.length]? =
      some { capacity := max n 1 } := List.getElem?_concat_length
  exact exists_feed_run hopened later

/-- Whatever happens after a feed was opened, who subscribes to it is told that it is closed if it
is. If not, the subscription is made if the capacity is one that a mailbox can have, and fails if it
is larger. The same comes of an attempt to follow the feed, for hits that are not retired and follow
no feed. -/
theorem subscribe_decided (w : World α) (n : Nat) (later : List (Action α)) :
    let feed := w.exchange.feeds.length
    let w' := (w.act (.exchange (.openFeed n))).run later
    let answer := (w'.exchange.subscribe feed).1
    (answer = .error .feedClosed ↔ w'.exchange.isClosed feed = true) ∧
      ((∃ s, answer = .ok s) ↔ w'.exchange.isClosed feed = false ∧ n ≤ bufferLimit) ∧
      (answer = .error .bufferTooLarge ↔
        w'.exchange.isClosed feed = false ∧ bufferLimit < n) ∧
      (∀ i f view, w'.finders[i]? = some f → f.hits.retired = false → f.link = none →
        (w'.follow i feed view).1 = answer.map fun _ ↦ ()) ∧
      ∀ s : Settings, s.effectiveBuffer = n → (n ≤ bufferLimit ↔ s.buffer ≤ bufferLimit) := by
  intro feed w' answer
  obtain ⟨fd, hfd, hcapacity⟩ := w.exists_feed_of_openFeed n later
  have hlimit : bufferLimit < fd.capacity ↔ bufferLimit < n := by
    have hone : 1 ≤ bufferLimit := by decide
    omega
  have hanswer : answer = if fd.closed then .error .feedClosed
      else if bufferLimit < n then .error .bufferTooLarge
      else .ok ⟨fd.nextNumber, w'.exchange.mailboxes.length⟩ := by
    show (w'.exchange.subscribe feed).1 = _
    rw [Exchange.subscribe_of_some hfd, apply_ite Prod.fst, apply_ite Prod.fst]
    simp only [hlimit]
    rfl
  rw [show w'.exchange.isClosed feed = fd.closed from Exchange.isClosed_of_some hfd]
  refine ⟨?_, ?_, ?_, fun i f view hf hretired hlink ↦ follow_of_free hf hretired hlink feed view,
    fun s hs ↦ hs ▸ s.le_bufferLimit_iff⟩
  all_goals
    rw [hanswer]
    cases fd.closed
    · by_cases hn : bufferLimit < n
      · simp [hn]
      · simp [hn, Nat.not_lt.1 hn]
    · simp

/-- A feed of capacity zero has room for one change, and takes subscriptions until it is closed. -/
theorem subscribe_decided_nodes :
    let w := ({} : World Node).run [.search (.ofText .default "filter") []]
    let w' := (w.act (.exchange (.openFeed 0))).run [.exchange (.subscribe 0)]
    (∃ s, (w'.exchange.subscribe 0).1 = .ok s) ∧ (w'.follow 0 0 none).1 = .ok () ∧
      ((w'.act (.exchange (.close 0))).exchange.subscribe 0).1 = .error .feedClosed := by
  intro w w'
  obtain ⟨f, hf, hretired, hlink⟩ :
      ∃ f, w'.finders[0]? = some f ∧ f.hits.retired = false ∧ f.link = none :=
    exists_free_of_any (by decide +kernel)
  have hopen : w'.exchange.isClosed 0 = false := by decide +kernel
  have hclosed : (w'.act (.exchange (.close 0))).exchange.isClosed 0 = true := by decide +kernel
  obtain ⟨-, hgranted, -, hfollow, -⟩ := subscribe_decided w 0 [.exchange (.subscribe 0)]
  obtain ⟨hrefused, -⟩ :=
    subscribe_decided w 0 [.exchange (.subscribe 0), .exchange (.close 0)]
  obtain ⟨s, hs⟩ := hgranted.2 ⟨hopen, Nat.zero_le _⟩
  refine ⟨⟨s, hs⟩, ?_, hrefused.2 hclosed⟩
  exact (hfollow 0 f none hf hretired hlink).trans (congrArg _ hs)

/-- Settings may ask for a buffer that no mailbox can have. A feed with their capacity is open, and
takes no subscription: neither of a subscriber nor of a finder. -/
theorem exists_buffer_too_large :
    ∃ s, Settings.ofText "\x7b\"eventBufferSize\": 2305843009213693952\x7d" = .ok s ∧
      let w := ({} : World Node).run
        [.exchange (.openFeed s.effectiveBuffer), .search (.ofText .default "filter") []]
      w.exchange.isClosed 0 = false ∧ (w.exchange.subscribe 0).1 = .error .bufferTooLarge ∧
        (w.follow 0 0 none).1 = .error .bufferTooLarge := by
  refine ⟨{ buffer := 0x2000000000000000 }, rfl, ?_⟩
  intro w
  have hfeed : w.exchange.feeds[0]? = some { capacity := 0x2000000000000000 } := by decide +kernel
  obtain ⟨f, hf, hretired, hlink⟩ :
      ∃ f, w.finders[0]? = some f ∧ f.hits.retired = false ∧ f.link = none :=
    exists_free_of_any (by decide +kernel)
  have hanswer : (w.exchange.subscribe 0).1 = .error .bufferTooLarge := by
    rw [Exchange.subscribe_of_some hfeed, if_neg Bool.false_ne_true, if_pos (by decide)]
  refine ⟨Exchange.isClosed_of_some hfeed, hanswer, ?_⟩
  rw [follow_of_free hf hretired hlink, hanswer]
  rfl

end World

end LiveFind
