import Mathlib.Data.List.Chain
import LiveFind.Node
import LiveFind.Proofs.Hits.Ring

/-!
# Taking turns in the ring

Runs that step forward while changes come and go. Items that stay among the hits come up in turn:
between two times that one of them is shown every other one is shown exactly once, and nobody waits
longer than the ring says at the start and the items appended since account for.

Both facts rest on what single moves do to `Hits.upcoming` and on nothing else:

* of two items that stay, the upcoming list holds one each, and only stepping to one of them turns
  their order round (`Sound.filter_upcoming_apply`, `Sound.inTurn_shown`);
* the number of items before one that stays falls by one with each step that shows another, and
  grows by one at most with each item appended (`Sound.count_next_le`).
-/

namespace LiveFind

variable {α : Type}

/-- Whether a move steps forward. -/
def Move.isNext : Move α → Bool
  | .next => true
  | .previous | .change .. | .retire => false

/-- Whether an item was put at the end. -/
def Outcome.isAppended : Outcome → Bool
  | .appended _ => true
  | .removed .. | .ignored | .dropped => false

variable [BEq α]

/-- Whether an item equals one of two. -/
def isOneOf (x y a : α) : Bool :=
  a == x || a == y

/-- Between two successive occurrences of `x` in the list there is exactly one of `y`. -/
def OnceBetween (x y : α) (l : List α) : Prop :=
  ∀ (u v w : List α) (a b : α), l = u ++ a :: (v ++ b :: w) → a == x → b == x →
    v.contains x = false → v.countP (· == y) = 1

/-- If any two successive occurrences of `x` or `y` are different, they alternate. -/
theorem onceBetween_of_isChain [EquivBEq α] {x y : α} {l : List α}
    (h : (l.filter (isOneOf x y)).IsChain fun a b ↦ (a == b) = false) :
    OnceBetween x y l := by
  intro u v w a b hl ha hb hv
  have hnot : ∀ c ∈ v, (c == x) = false := by
    simpa [← List.any_beq'] using hv
  have hvy : v.filter (isOneOf x y) = v.filter (· == y) :=
    List.filter_congr fun c hc ↦ by rw [isOneOf, hnot c hc, Bool.false_or]
  rw [hl, List.filter_append, List.filter_cons_of_pos (by simp [isOneOf, ha]), List.filter_append,
    List.filter_cons_of_pos (by simp [isOneOf, hb]), hvy] at h
  have hmid := (List.isChain_append.1 h).2.1
  rw [List.countP_eq_length_filter]
  rcases hf : v.filter (· == y) with - | ⟨c, - | ⟨d, rest⟩⟩
  · -- nothing stands between two equal items
    rw [hf, List.nil_append, List.isChain_cons_cons, BEq.congr_left ha, BEq.comm, hb] at hmid
    exact absurd hmid.1 (by simp)
  · rfl
  · have hmem : ∀ e ∈ v.filter (· == y), (e == y) = true := fun e he ↦ (List.mem_filter.1 he).2
    rw [hf] at hmid hmem
    have hcd := (List.isChain_cons_cons.1 (List.isChain_cons_cons.1 hmid).2).1
    rw [BEq.congr_left (hmem c (by simp)), BEq.comm, hmem d (by simp)] at hcd
    exact absurd hcd (by simp)

/-- In a list without equal items that begins with `x` or `y` and has both, the other one is the
first of the two in what follows. -/
theorem Distinct.exists_head?_filter [EquivBEq α] {x y a : α} {l : List α}
    (hd : Distinct (a :: l)) (hxy : (x == y) = false) (hx : (a :: l).contains x = true)
    (hy : (a :: l).contains y = true) (ha : isOneOf x y a = true) :
    ∃ b, (l.filter (isOneOf x y)).head? = some b ∧ (a == b) = false := by
  have hother : ∃ b ∈ l, isOneOf x y b = true := by
    rw [List.contains_cons, BEq.comm, Bool.or_eq_true] at hx hy
    rcases Bool.or_eq_true_iff.1 ha with hax | hay
    · rcases hy with hay | hy
      · rw [← BEq.congr_left hax, hay] at hxy
        cases hxy
      · obtain ⟨b, hb, hyb⟩ := List.contains_iff_exists_mem_beq.1 hy
        exact ⟨b, hb, by simp [isOneOf, BEq.symm hyb]⟩
    · rcases hx with hax | hx
      · rw [← BEq.congr_left hax, hay] at hxy
        cases hxy
      · obtain ⟨b, hb, hxb⟩ := List.contains_iff_exists_mem_beq.1 hx
        exact ⟨b, hb, by simp [isOneOf, BEq.symm hxb]⟩
  rcases hf : l.filter (isOneOf x y) with - | ⟨b, rest⟩
  · obtain ⟨b, hb, hbxy⟩ := hother
    exact absurd hbxy (List.filter_eq_nil_iff.1 hf b hb)
  · have hb : b ∈ l := (List.mem_filter.1 (hf ▸ List.mem_cons_self)).1
    exact ⟨b, rfl, (List.pairwise_cons.1 hd).1 b hb⟩

/-- The two items occur in turn in a list, beginning with the one that stands first in a queue. -/
def InTurn (x y : α) (queue l : List α) : Prop :=
  ((l.filter (isOneOf x y)).IsChain fun a b ↦ (a == b) = false) ∧
    ∀ b ∈ (l.filter (isOneOf x y)).head?, (queue.filter (isOneOf x y)).head? = some b

theorem inTurn_nil (x y : α) (queue : List α) : InTurn x y queue [] :=
  ⟨List.isChain_nil, fun b hb ↦ by cases hb⟩

/-- Only the place of the two in the queue matters. -/
theorem InTurn.congr {x y : α} {queue queue' l : List α} (h : InTurn x y queue l)
    (heq : queue'.filter (isOneOf x y) = queue.filter (isOneOf x y)) : InTurn x y queue' l := by
  rw [InTurn, heq]
  exact h

/-- The first of a queue that has both may go to its end when it occurs. -/
theorem InTurn.rotate [EquivBEq α] {x y a : α} {rest l : List α} (h : InTurn x y (rest ++ [a]) l)
    (hd : Distinct (a :: rest)) (hxy : (x == y) = false) (hx : (a :: rest).contains x = true)
    (hy : (a :: rest).contains y = true) : InTurn x y (a :: rest) (a :: l) := by
  obtain ⟨hchain, hhead⟩ := h
  rw [List.filter_append] at hhead
  by_cases ha : isOneOf x y a = true
  · obtain ⟨b, hb, hab⟩ := hd.exists_head?_filter hxy hx hy ha
    rw [InTurn, List.filter_cons_of_pos ha, List.filter_cons_of_pos ha]
    refine ⟨List.isChain_cons.2 ⟨fun c hc ↦ ?_, hchain⟩, fun c hc ↦ hc⟩
    rw [List.head?_append, hb, Option.some_or] at hhead
    rwa [← Option.some.inj (hhead c hc)]
  · rw [List.filter_cons_of_neg ha, List.filter_nil, List.append_nil] at hhead
    rw [InTurn, List.filter_cons_of_neg ha, List.filter_cons_of_neg ha]
    exact ⟨hchain, hhead⟩

omit [BEq α] in
/-- Deleting items that do not count brings the first one that does no further back. -/
theorem findIdx_filter_le {p q : α → Bool} (hpq : ∀ a, q a = true → p a = true) (l : List α) :
    (l.filter p).findIdx q ≤ l.findIdx q := by
  induction l with
  | nil => exact Nat.le_refl _
  | cons a l ih =>
    by_cases hq : q a
    · rw [List.filter_cons_of_pos (hpq a hq), List.findIdx_cons, hq]
      exact Nat.zero_le _
    · by_cases hp : p a
      · rw [List.filter_cons_of_pos hp, List.findIdx_cons, List.findIdx_cons]
        simpa [hq] using ih
      · rw [List.filter_cons_of_neg hp, List.findIdx_cons]
        simp only [hq, cond_false]
        omega

omit [BEq α] in
/-- One more item puts the first one that counts back by one place at most. -/
theorem findIdx_append_cons_le (q : α → Bool) (u v : List α) (a : α) :
    (u ++ a :: v).findIdx q ≤ (u ++ v).findIdx q + 1 := by
  rw [List.findIdx_append, List.findIdx_append, List.findIdx_cons]
  split
  · omega
  · cases q a <;> simp only [cond_true, cond_false] <;> omega

namespace Hits

variable [Hashable α] [Findable α] {h : Hits α}

/-- An item stays among the hits during all of a run. -/
def Tracks (h : Hits α) (a : α) (moves : List (Move α)) : Prop :=
  ∀ k, (h.run (moves.take k)).items.contains a = true

theorem Tracks.head {a : α} {moves : List (Move α)} (ht : h.Tracks a moves) :
    h.items.contains a = true :=
  ht 0

theorem Tracks.tail {a : α} {m : Move α} {moves : List (Move α)} (ht : h.Tracks a (m :: moves)) :
    (h.after m).Tracks a moves :=
  fun k ↦ ht (k + 1)

theorem Tracks.take {a : α} {moves : List (Move α)} (ht : h.Tracks a moves) (n : Nat) :
    h.Tracks a (moves.take n) := by
  intro k
  rw [List.take_take]
  exact ht _

variable [EquivBEq α] [LawfulHashable α]

theorem Sound.contains_after (hs : h.Sound) {x : α} (hx : h.items.contains x = true) {m : Move α}
    (hm : ∀ viewClosed a, m = .change viewClosed (.removed a) → (a == x) = false) :
    (h.after m).items.contains x = true := by
  cases m with
  | next => obtain ⟨cursor, hc⟩ := h.exists_cursor_after_next; rw [hc]; exact hx
  | previous => obtain ⟨cursor, hc⟩ := h.exists_cursor_after_previous; rw [hc]; exact hx
  | change viewClosed c =>
    show (h.apply viewClosed c).2.items.contains x = true
    rcases hs.apply_cases viewClosed c with
      ⟨a, i, -, rfl, -, herase, heq⟩ | ⟨a, -, -, heq⟩ | ⟨o, -, heq⟩
    · obtain ⟨b, hb, hxb⟩ := List.contains_iff_exists_mem_beq.1 hx
      have hba : (b == a) = false := by rw [← BEq.congr_left hxb, BEq.comm, hm _ _ rfl]
      rw [heq, herase]
      exact List.contains_iff_exists_mem_beq.2 ⟨b, List.mem_filter.2 ⟨hb, by simp [hba]⟩, hxb⟩
    · rw [heq, List.contains_append, hx, Bool.true_or]
    · rw [heq, hx]
  | retire => exact hx

/-- An item stays unless it is removed. -/
theorem Sound.tracks (hs : h.Sound) {x : α} (hx : h.items.contains x = true) {moves : List (Move α)}
    (hm : ∀ viewClosed a, Move.change viewClosed (.removed a) ∈ moves → (a == x) = false) :
    h.Tracks x moves := by
  induction moves generalizing h with
  | nil =>
    intro k
    rw [List.take_nil]
    exact hx
  | cons m moves ih =>
    intro k
    cases k with
    | zero => exact hx
    | succ k =>
      refine ih (hs.after m) (hs.contains_after hx ?_) ?_ k
      · exact fun viewClosed a heq ↦ hm viewClosed a (heq ▸ List.mem_cons_self)
      · exact fun viewClosed a ha ↦ hm viewClosed a (List.mem_cons_of_mem _ ha)

/-- Items that are hits before and after a change keep their order in the ring. -/
theorem Sound.filter_upcoming_apply (hs : h.Sound) (viewClosed : Bool) (c : Change α)
    {p : α → Bool} (hp : ∀ a, p a = true →
      h.items.contains a = true ∧ (h.apply viewClosed c).2.items.contains a = true) :
    (h.apply viewClosed c).2.upcoming.filter p = h.upcoming.filter p := by
  rcases hs.upcoming_apply viewClosed c with
    ⟨a, -, -, -, -, hgone, hup⟩ | ⟨a, u, v, -, -, hnew, hup, hup'⟩ | ⟨o, -, heq⟩
  · rw [hup]
    refine filter_filter_bne (fun b hb ↦ ?_) _
    by_contra hba
    rw [Bool.not_eq_false] at hba
    rw [← List.contains_congr hba, (hp b hb).2] at hgone
    cases hgone
  · have ha : p a = false := by
      by_contra ha
      rw [Bool.not_eq_false] at ha
      rw [(hp a ha).1] at hnew
      cases hnew
    rw [hup, hup', List.filter_append, List.filter_cons_of_neg (by simp [ha]),
      List.filter_append]
  · rw [heq]

omit [EquivBEq α] [LawfulHashable α] in
/-- As long as there is a hit, stepping forward shows the item that comes up first and puts it
last. -/
theorem Sound.exists_shown_next (hs : h.Sound) {x : α} (hx : h.items.contains x = true) :
    ∃ a rest, h.upcoming = a :: rest ∧ (h.after .next).upcoming = rest ++ [a] ∧
      ∀ moves, h.shown (.next :: moves) = a :: (h.after .next).shown moves := by
  rcases hs.upcoming_next with ⟨hnil, -⟩ | ⟨a, rest, h', hok, hup, hup'⟩
  · exact absurd hx (by simp [hnil])
  · have hafter : h.after .next = h' := by rw [Hits.after, hok]; rfl
    refine ⟨a, rest, hup, hafter ▸ hup', fun moves ↦ ?_⟩
    rw [shown, shownBy, hok]
    rfl

omit [LawfulHashable α] in
/-- Of two items that stay, each is a hit before and after a move. -/
theorem Tracks.contains_of_isOneOf {x y : α} {m : Move α} {moves : List (Move α)}
    (hx : h.Tracks x (m :: moves)) (hy : h.Tracks y (m :: moves)) {a : α}
    (ha : isOneOf x y a = true) :
    h.items.contains a = true ∧ (h.after m).items.contains a = true := by
  rcases Bool.or_eq_true_iff.1 ha with ha | ha
  · rw [List.contains_congr ha, List.contains_congr ha]
    exact ⟨hx.head, hx.tail.head⟩
  · rw [List.contains_congr ha, List.contains_congr ha]
    exact ⟨hy.head, hy.tail.head⟩

/-- Two items that stay are shown in turn, beginning with the one that comes up first. -/
theorem Sound.inTurn_shown {x y : α} (hxy : (x == y) = false) {moves : List (Move α)}
    (hforward : Move.previous ∉ moves) (hs : h.Sound) (hx : h.Tracks x moves)
    (hy : h.Tracks y moves) : InTurn x y h.upcoming (h.shown moves) := by
  induction moves generalizing h with
  | nil => exact inTurn_nil x y _
  | cons m moves ih =>
    have hforward' : Move.previous ∉ moves := fun hm ↦ hforward (List.mem_cons_of_mem _ hm)
    have hrest := ih hforward' (hs.after m) hx.tail hy.tail
    cases m with
    | next =>
      obtain ⟨a, rest, hup, hup', hshown⟩ := hs.exists_shown_next hx.head
      rw [hup'] at hrest
      rw [hshown, hup]
      refine hrest.rotate (hup ▸ hs.distinct_upcoming) hxy ?_ ?_
      · rw [← hup, hs.contains_upcoming, hx.head]
      · rw [← hup, hs.contains_upcoming, hy.head]
    | previous => exact absurd List.mem_cons_self hforward
    | change viewClosed c =>
      exact hrest.congr (hs.filter_upcoming_apply viewClosed c
        fun _ ↦ hx.contains_of_isOneOf hy).symm
    | retire => exact hrest

/-! ### How long an item waits -/

/-- A change puts an item that stays further back by one place at most, and only by appending
another. -/
theorem Sound.findIdx_upcoming_apply_le (hs : h.Sound) (viewClosed : Bool) (c : Change α) {x : α}
    (hx : (h.apply viewClosed c).2.items.contains x = true) :
    (h.apply viewClosed c).2.upcoming.findIdx (· == x) ≤
      h.upcoming.findIdx (· == x) + if (h.apply viewClosed c).1.isAppended then 1 else 0 := by
  rcases hs.upcoming_apply viewClosed c with
    ⟨a, -, -, -, -, hgone, hup⟩ | ⟨a, u, v, index, ho, hnew, hup, hup'⟩ | ⟨o, -, heq⟩
  · rw [hup]
    refine Nat.le_trans (findIdx_filter_le (fun b hb ↦ ?_) _) (Nat.le_add_right _ _)
    rw [Bool.not_eq_true', BEq.congr_left hb]
    by_contra hxa
    rw [Bool.not_eq_false] at hxa
    rw [← List.contains_congr hxa, hx] at hgone
    cases hgone
  · rw [hup, hup', ho]
    exact findIdx_append_cons_le _ u v a
  · rw [heq]
    exact Nat.le_add_right _ _

/-- As long as an item that stays is not shown, each step forward brings it up by one place, and
only items that are appended can put it back, each by one. -/
theorem Sound.count_next_le {x : α} {moves : List (Move α)} (hforward : Move.previous ∉ moves)
    (hs : h.Sound) (hx : h.Tracks x moves) (hnot : (h.shown moves).contains x = false) :
    moves.countP Move.isNext ≤
      h.upcoming.findIdx (· == x) + (h.outcomes moves).countP Outcome.isAppended := by
  induction moves generalizing h with
  | nil => exact Nat.zero_le _
  | cons m moves ih =>
    have hforward' : Move.previous ∉ moves := fun hm ↦ hforward (List.mem_cons_of_mem _ hm)
    have hrest := ih hforward' (hs.after m) hx.tail
    cases m with
    | next =>
      obtain ⟨a, rest, hup, hup', hshown⟩ := hs.exists_shown_next hx.head
      rw [hshown, List.contains_cons, Bool.or_eq_false_iff] at hnot
      have hax : (a == x) = false := by rw [BEq.comm, hnot.1]
      have hlt : rest.findIdx (· == x) < rest.length := by
        have hin := hs.contains_upcoming x
        rw [hup, List.contains_cons, hnot.1, Bool.false_or, hx.head] at hin
        obtain ⟨b, hb, hxb⟩ := List.contains_iff_exists_mem_beq.1 hin
        exact List.findIdx_lt_length_of_exists ⟨b, hb, BEq.symm hxb⟩
      have hle := hrest hnot.2
      rw [hup', List.findIdx_append, if_pos hlt] at hle
      rw [hup, List.findIdx_cons, hax, cond_false, List.countP_cons_of_pos rfl]
      show _ ≤ _ + ((h.after .next).outcomes moves).countP _
      omega
    | previous => exact absurd List.mem_cons_self hforward
    | change viewClosed c =>
      have hle := hrest hnot
      have hmoved := hs.findIdx_upcoming_apply_le viewClosed c hx.tail.head
      have houtcomes : h.outcomes (.change viewClosed c :: moves) =
          (h.apply viewClosed c).1 :: (h.after (.change viewClosed c)).outcomes moves := rfl
      have hafter : h.after (.change viewClosed c) = (h.apply viewClosed c).2 := rfl
      rw [hafter] at hle houtcomes
      rw [houtcomes, List.countP_cons_of_neg Bool.false_ne_true, List.countP_cons]
      omega
    | retire => exact hrest hnot

/-! ### Every run -/

/-- Stepping forward skips no item that stays and repeats none, whatever comes and goes meanwhile:
two such items are shown in turn, and at every point an item not shown yet has waited for as many
steps at most as there were items before it and were appended since. -/
theorem Reachable.shown_in_turn (hr : h.Reachable) {moves : List (Move α)}
    (hforward : Move.previous ∉ moves) :
    (∀ x y, (x == y) = false → h.Tracks x moves → h.Tracks y moves →
      OnceBetween x y (h.shown moves) ∧ OnceBetween y x (h.shown moves)) ∧
    (∀ x, h.Tracks x moves → ∀ k, (h.shown (moves.take k)).contains x = false →
      (moves.take k).countP Move.isNext ≤
        h.upcoming.findIdx (· == x) +
          (h.outcomes (moves.take k)).countP Outcome.isAppended) := by
  constructor
  · intro x y hxy hx hy
    have hyx : (y == x) = false := by rwa [BEq.comm]
    exact ⟨onceBetween_of_isChain (hr.sound.inTurn_shown hxy hforward hx hy).1,
      onceBetween_of_isChain (hr.sound.inTurn_shown hyx hforward hy hx).1⟩
  · intro x hx k hnot
    have hforward' : Move.previous ∉ moves.take k := fun hm ↦ hforward (List.mem_of_mem_take hm)
    exact hr.sound.count_next_le hforward' (hx.take k) hnot

/-- The item just shown is removed, a new one comes, and the ring goes round twice. -/
theorem shown_in_turn_nodes :
    let row : Node := { id := "node:1", kind := "filter", label := "Row" }
    let column : Node := { id := "node:2", kind := "filter", label := "Column" }
    let domain : Node := { id := "node:3", kind := "filter", label := "Domain" }
    let h := ofSearch (Query.ofText .default "Filter") [row, column, domain]
    let moves : List (Move Node) :=
      [.next, .next, .change false (.removed column), .next,
        .change false (.added { column with id := "node:4" }), .next, .next, .next]
    h.Reachable ∧ Move.previous ∉ moves ∧ h.Tracks row moves ∧ h.Tracks domain moves ∧
      OnceBetween row domain (h.shown moves) ∧ OnceBetween domain row (h.shown moves) := by
  intro row column domain h moves
  have hr : h.Reachable := .ofSearch _ _
  have hforward : Move.previous ∉ moves := by simp [moves]
  have hselected : ∀ a ∈ [row, column, domain], h.items.contains a = true := by
    intro a ha
    have haccepts : (Query.ofText .default "Filter").accepts a = true := by
      simp only [List.mem_cons, List.not_mem_nil, or_false] at ha
      rcases ha with rfl | rfl | rfl <;> decide +kernel
    have hmem : a ∈ [row, column, domain].filter (Query.ofText .default "Filter").accepts :=
      List.mem_filter.2 ⟨ha, haccepts⟩
    rw [items_ofSearch, Query.contains_select, List.contains_iff_exists_mem_beq]
    exact ⟨a, hmem, BEq.rfl⟩
  have hstays : ∀ x : Node, (column == x) = false → h.items.contains x = true →
      h.Tracks x moves := by
    intro x hx hin
    refine hr.sound.tracks hin fun viewClosed a ha ↦ ?_
    simp only [moves, List.mem_cons, List.not_mem_nil, or_false, reduceCtorEq, false_or,
      Move.change.injEq, Change.removed.injEq, and_false] at ha
    exact ha.2 ▸ hx
  have hrow : h.Tracks row moves := hstays row (by decide) (hselected row (by simp))
  have hdomain : h.Tracks domain moves := hstays domain (by decide) (hselected domain (by simp))
  exact ⟨hr, hforward, hrow, hdomain,
    (hr.shown_in_turn hforward).1 row domain (by decide) hrow hdomain⟩

end Hits

end LiveFind
