import LiveFind.Proofs.Hits.Anchor
import LiveFind.Proofs.Hits.Stepping

/-!
# The item shown last

The answer to a removal says whether the item that goes was the current one. This module compares
that with what has been shown: `Hits.stillShown` is the item shown last if it has stayed since, and
`Hits.stillBehind` what has stayed of the items up to that one. Both look at what a run shows and
which items there are, and neither at the cursor.

* The cursor is always on the last item of `stillBehind` (`Sound.behind_run_eq_stillBehind`). So
  that is the one whose removal is reported as that of the current item.
* As long as the item shown last stays, it is the last one of these, and nothing else is reported
  (`Begins.reported_iff`). Nothing is reported either before anything is shown.
* Once it is gone, the item before it takes its place without being shown, and its removal is
  reported all the same (`exists_reported_unshown`).
-/

namespace LiveFind

variable {α : Type}

section

variable [BEq α]

/-- The items of a list up to the first one that equals this one. -/
def upTo (a : α) (l : List α) : List α :=
  l.take (l.findIdx (· == a) + 1)

theorem getLast?_upTo {a : α} {l : List α} (hlt : l.findIdx (· == a) < l.length) :
    (upTo a l).getLast?.any (· == a) = true := by
  rw [upTo, List.getLast?_take, if_neg (Nat.succ_ne_zero _), Nat.add_sub_cancel,
    List.getElem?_eq_getElem hlt, Option.some_or, Option.any_some]
  exact List.findIdx_getElem (p := (· == a))

end

namespace Hits

variable [BEq α] [Hashable α] [Findable α]

/-- Hits as a search or a list of matches sets them up, and the item that is then the one shown
last. -/
inductive Begins : Hits α → Option α → Prop
  | ofSearch (q : Query) (collection : List α) : Begins (Hits.ofSearch q collection) none
  | ofMatches {q : Query} {matched : List α} {start : Nat} {h : Hits α} :
      Hits.ofMatches q matched start = .ok h → Begins h matched[start]?

/-- What is shown by a move, or else what was shown last, unless the move takes it out. -/
def stillShownBy (h : Hits α) (last : Option α) (m : Move α) : Option α :=
  (h.shownBy m).or (last.filter (h.after m).items.contains)

/-- The item that is shown last in a run, if it has stayed since. -/
def stillShown (h : Hits α) (last : Option α) : List (Move α) → Option α
  | [] => last
  | m :: moves => (h.after m).stillShown (h.stillShownBy last m) moves

/-- The items up to the one that a move shows, or else those that it leaves of some. -/
def stillBehindBy (h : Hits α) (kept : List α) (m : Move α) : List α :=
  match h.shownBy m with
  | some a => upTo a (h.after m).items
  | none => kept.filter (h.after m).items.contains

/-- The items up to the one that is shown last in a run, as far as they have stayed since. -/
def stillBehind (h : Hits α) (kept : List α) : List (Move α) → List α
  | [] => kept
  | m :: moves => (h.after m).stillBehind (h.stillBehindBy kept m) moves

/-- Nothing is behind as long as nothing is shown. -/
theorem stillBehind_of_shown_eq_nil {h : Hits α} {moves : List (Move α)}
    (hshown : h.shown moves = []) : h.stillBehind [] moves = [] := by
  induction moves generalizing h with
  | nil => rfl
  | cons m moves ih =>
    obtain ⟨hm, hmoves⟩ := List.append_eq_nil_iff.1 hshown
    rw [stillBehind, stillBehindBy, Option.toList_eq_nil_iff.1 hm]
    exact ih hmoves

variable [EquivBEq α] [LawfulHashable α] {h : Hits α}

/-- A change leaves an item unless it takes it out. -/
theorem Sound.contains_items_after (hs : h.Sound) {m : Move α} (hm : m.isChange = true) {a : α}
    (ha : a ∈ h.items) : (h.after m).items.contains a = h.spares [m] a := by
  by_cases hremoval : m.isRemoval = true
  · rw [hs.items_after_removal hremoval]
    cases hspared : h.spares [m] a with
    | true => exact List.contains_iff_exists_mem_beq.2 ⟨a, List.mem_filter.2 ⟨ha, hspared⟩, BEq.rfl⟩
    | false => exact contains_filter_spares hspared h.items
  · cases m with
    | change viewClosed c =>
      have hspared : h.spares [.change viewClosed c] a = true := by
        cases c with
        | removed b => exact absurd rfl hremoval
        | added | other => cases viewClosed <;> simp [spares, Move.takesOut]
      rw [hspared, List.contains_iff_exists_mem_beq]
      refine ⟨a, ?_, BEq.rfl⟩
      rcases hs.apply_cases viewClosed c with
        ⟨b, -, -, rfl, -⟩ | ⟨b, -, -, heq⟩ | ⟨o, -, heq⟩
      · exact absurd rfl hremoval
      · rw [Hits.after, heq]
        exact List.mem_append_left _ ha
      · rw [Hits.after, heq]
        exact ha
    | next | previous | retire => cases hm

omit [LawfulHashable α] in
/-- What a move shows is where the cursor is then. -/
theorem Sound.behind_after_of_shownBy (hs : h.Sound) {m : Move α} {a : α}
    (ha : h.shownBy m = some a) :
    (h.after m).behind = upTo a (h.after m).items ∧ a ∈ (h.after m).items := by
  by_cases hm : m.isStep = true
  · rcases hs.step_cases hm with ⟨-, hnone, -⟩ | ⟨i, hi, -, hafter, hshown⟩
    · cases hnone.symm.trans ha
    · obtain rfl := Option.some.inj (hshown.symm.trans ha)
      rw [hafter, upTo, hs.distinct.findIdx_getElem hi]
      exact ⟨rfl, List.getElem_mem hi⟩
  · cases m with
    | next | previous => exact absurd rfl hm
    | change | retire => cases ha

/-- A move that shows nothing leaves of the items up to the cursor those that are still there. -/
theorem Sound.behind_after_of_not_shown (hs : h.Sound) {m : Move α} (hnone : h.shownBy m = none) :
    (h.after m).behind = h.behind.filter (h.after m).items.contains := by
  have hall : h.behind.filter h.items.contains = h.behind := by
    refine List.filter_eq_self.2 fun a ha ↦ List.contains_iff_exists_mem_beq.2 ⟨a, ?_, BEq.rfl⟩
    exact List.mem_of_mem_take ha
  by_cases hm : m.isStep = true
  · rcases hs.step_cases hm with ⟨-, -, hafter⟩ | ⟨i, hi, -, -, hshown⟩
    · rw [hafter, hall]
    · cases hnone.symm.trans hshown
  · cases m with
    | next | previous => exact absurd rfl hm
    | change viewClosed c =>
      rw [hs.behind_after rfl]
      refine List.filter_congr fun a ha ↦ ?_
      exact (hs.contains_items_after rfl (List.mem_of_mem_take ha)).symm
    | retire => exact hall.symm

/-- The cursor is on the last item that has stayed. -/
theorem Sound.behind_run_eq_stillBehind (hs : h.Sound) (moves : List (Move α)) :
    (h.run moves).behind = h.stillBehind h.behind moves := by
  induction moves generalizing h with
  | nil => rfl
  | cons m moves ih =>
    have hstep : h.stillBehindBy h.behind m = (h.after m).behind := by
      rw [stillBehindBy]
      split
      · rename_i a ha
        exact (hs.behind_after_of_shownBy ha).1.symm
      · rename_i hnone
        exact (hs.behind_after_of_not_shown hnone).symm
    rw [run_cons, ih (hs.after m), stillBehind, hstep]

/-- The item shown last is the last one of those that have stayed, as long as it stays itself. -/
theorem Sound.getLast?_stillBehind (hs : h.Sound) {last : Option α} {kept : List α}
    (hlast : ∀ a ∈ last, kept.getLast?.any (· == a) = true) (moves : List (Move α)) :
    ∀ a ∈ h.stillShown last moves, (h.stillBehind kept moves).getLast?.any (· == a) = true := by
  induction moves generalizing h last kept with
  | nil => exact hlast
  | cons m moves ih =>
    refine ih (hs.after m) fun a ha ↦ ?_
    rw [stillShownBy] at ha
    rw [stillBehindBy]
    split
    · rename_i b hb
      rw [hb, Option.some_or] at ha
      rw [← Option.some.inj ha]
      exact getLast?_upTo
        (List.findIdx_lt_length_of_exists ⟨b, (hs.behind_after_of_shownBy hb).2, BEq.rfl⟩)
    · rename_i hnone
      rw [hnone, Option.none_or, Option.mem_def, Option.filter_eq_some_iff] at ha
      obtain ⟨b, hb, hba⟩ := (Option.any_eq_true _ _).1 (hlast a ha.1)
      obtain ⟨l, rfl⟩ := List.getLast?_eq_some_iff.1 hb
      have hstays : (h.after m).items.contains b = true := (List.contains_congr hba).trans ha.2
      rw [List.filter_append, List.filter_cons_of_pos hstays, List.filter_nil,
        List.getLast?_concat]
      exact hba

/-! ### Answers to removals -/

/-- Before the first move the items up to the one that is shown are those up to the cursor. -/
theorem Begins.behind_eq {first : Option α} (hb : h.Begins first) :
    h.behind = first.elim [] (upTo · h.items) ∧
      ∀ a ∈ first, h.items.findIdx (· == a) < h.items.length := by
  cases hb with
  | ofSearch q collection => exact ⟨rfl, fun a ha ↦ by cases ha⟩
  | @ofMatches q matched start _ hok =>
    rw [Hits.ofMatches] at hok
    split at hok
    · rename_i a ha
      obtain ⟨i, hi, hlt⟩ := exists_findIdx?_dropSeen (List.mem_of_getElem? ha)
      have hfound := (List.findIdx?_eq_some_iff_findIdx_eq.1 hi).2
      cases hok
      rw [ha]
      refine ⟨?_, fun b hb ↦ ?_⟩
      · rw [behind, ofItems, hi, Option.elim_some, upTo, hfound]
        rfl
      · rw [← Option.some.inj hb]
        exact hfound ▸ hlt
    · rename_i hnone
      split at hok
      · cases hok
        rw [hnone]
        exact ⟨rfl, fun a ha ↦ by cases ha⟩
      · cases hok

theorem Begins.sound {first : Option α} (hb : h.Begins first) : h.Sound := by
  cases hb with
  | ofSearch q collection => exact sound_ofSearch q collection
  | ofMatches hok => exact sound_ofMatches hok

/-- A removal is reported as that of the current item exactly if it takes out the last one up to the
cursor. -/
theorem Sound.wasCurrent_iff (hs : h.Sound) {viewClosed : Bool} {a : α} {index : Nat}
    {wasCurrent : Bool}
    (hanswer : (h.apply viewClosed (.removed a)).1 = .removed index wasCurrent) :
    wasCurrent = true ↔ h.behind.getLast?.any (· == a) = true := by
  rcases hs.apply_cases viewClosed (.removed a) with
    ⟨b, i, hi, hab, heq, -, hremoved⟩ | ⟨b, hab, -⟩ | ⟨o, ho, hsame⟩
  · cases hab
    rw [hremoved] at hanswer
    cases hanswer
    rw [← hs.current?_eq, beq_iff_eq, current?]
    have hlt := hs.cursor_lt
    constructor
    · intro hcursor
      rw [← hcursor, if_neg (by omega), Int.toNat_natCast, List.getElem?_eq_getElem hi]
      exact heq
    · intro hlast
      split at hlast
      · cases hlast
      · have hcursor : h.cursor.toNat < h.items.length := by omega
        rw [List.getElem?_eq_getElem hcursor, Option.any_some] at hlast
        have hplace := hs.distinct.getElem_inj hi hcursor (BEq.trans heq (BEq.symm hlast))
        omega
  · cases hab
  · rw [hsame] at hanswer
    rcases ho with rfl | rfl <;> cases hanswer

/-- A list of four matches without equal ones, of which the third is shown. -/
theorem begins_four (q : Query) {w x y z : α} (hd : Distinct [w, x, y, z]) :
    (ofItems q [w, x, y, z] 2).Begins (some y) := by
  have hother : (w == y) = false ∧ (x == y) = false := by simp_all [Distinct]
  have hkept : Query.dropSeen ∅ [w, x, y, z] = [w, x, y, z] :=
    Query.dropSeen_eq_self (fun _ _ ↦ by simp) hd
  have hfind : [w, x, y, z].findIdx? (· == y) = some 2 := by simp [List.findIdx?_cons, hother]
  have hok : Hits.ofMatches q [w, x, y, z] 2 = .ok (ofItems q [w, x, y, z] 2) := by
    simp [Hits.ofMatches, hkept, hfind]
  exact .ofMatches hok

/-- Of four hits the third is current. It is removed, and then the second, and both are reported as
the current one. -/
theorem reported_twice_four (q : Query) {w x y z : α} (hd : Distinct [w, x, y, z]) :
    let h := ofItems q [w, x, y, z] 2
    let moves : List (Move α) := [.change false (.removed y)]
    ((h.run []).apply false (.removed y)).1 = .removed 2 true ∧
      ((h.run moves).apply false (.removed x)).1 = .removed 1 true ∧
      (h.run moves).items = [w, x, z] := by
  intro h moves
  have hs : h.Sound := sound_ofItems hd (by omega) (by simp)
  have hthird := hs.apply_removed_getElem rfl 2 (by simp [h, ofItems]) (BEq.refl y)
  have hs' := hs.apply false (.removed y)
  have hrun : h.run moves = (h.apply false (.removed y)).2 := rfl
  rw [hthird] at hs' hrun
  have hsecond := hs'.apply_removed_getElem rfl 1 (by simp [h, ofItems]) (BEq.refl x)
  refine ⟨congrArg (·.1) hthird, ?_, by rw [hrun]; rfl⟩
  rw [hrun, hsecond]
  rfl

/-! ### Every run -/

/-- What a removal reports as current is the last item that has stayed of those up to the one shown
last. While the item shown last stays this is the item itself, and before anything is shown it is
none. -/
theorem Begins.reported_iff {first : Option α} (hb : h.Begins first) {moves : List (Move α)}
    {viewClosed : Bool} {a : α} {index : Nat} {wasCurrent : Bool}
    (hanswer : ((h.run moves).apply viewClosed (.removed a)).1 = .removed index wasCurrent) :
    (wasCurrent = true ↔
      (h.stillBehind (first.elim [] (upTo · h.items)) moves).getLast?.any (· == a) = true) ∧
    (∀ b, h.stillShown first moves = some b → (wasCurrent = true ↔ (b == a) = true)) ∧
    (first = none → h.shown moves = [] → wasCurrent = false) := by
  have hs := hb.sound
  obtain ⟨hbehind, hfound⟩ := hb.behind_eq
  have hiff := (hs.run moves).wasCurrent_iff hanswer
  rw [hs.behind_run_eq_stillBehind, hbehind] at hiff
  refine ⟨hiff, fun b hshown ↦ ?_, fun hnone hshown ↦ ?_⟩
  · have hfirst : ∀ c ∈ first,
        (first.elim [] (upTo · h.items)).getLast?.any (· == c) = true := by
      rintro c rfl
      exact getLast?_upTo (hfound c rfl)
    obtain ⟨c, hc, hcb⟩ :=
      (Option.any_eq_true _ _).1 (hs.getLast?_stillBehind hfirst moves b hshown)
    rw [hiff, hc, Option.any_some, BEq.congr_left hcb]
  · rw [← Bool.not_eq_true, hiff, hnone, Option.elim_none, stillBehind_of_shown_eq_nil hshown]
    exact Bool.false_ne_true

/-- The third of four nodes is shown at the start. Its own removal is reported, and after it that of
the second one, which is the last one that has stayed. After a search that shows nothing no removal
is reported. -/
theorem reported_iff_nodes :
    let row : Node := { id := "node:1", kind := "filter", label := "Row" }
    let column : Node := { id := "node:2", kind := "filter", label := "Column" }
    let domain : Node := { id := "node:3", kind := "filter", label := "Domain" }
    let range : Node := { id := "node:4", kind := "filter", label := "Range" }
    let h := ofItems (Query.ofText .default "Filter") [row, column, domain, range] 2
    let searched := ofSearch (Query.ofText .default "Filter") [row, column, domain, range]
    let moves : List (Move Node) := [.change false (.removed domain)]
    h.Begins (some domain) ∧
      ((h.run []).apply false (.removed domain)).1 = .removed 2 true ∧ (domain == domain) = true ∧
      ((h.run moves).apply false (.removed column)).1 = .removed 1 true ∧
      (h.stillBehind (upTo domain h.items) moves).getLast?.any (· == column) = true ∧
      searched.Begins none ∧
      ∃ index, ((searched.run []).apply false (.removed row)).1 = .removed index false := by
  intro row column domain range h searched moves
  have hd : Distinct [row, column, domain, range] := by rw [Distinct]; decide +kernel
  have hb : h.Begins (some domain) := begins_four _ hd
  have hsearched : searched.Begins none := .ofSearch _ _
  obtain ⟨hthird, hsecond, -⟩ := reported_twice_four (Query.ofText .default "Filter") hd
  have heq : searched =
      ofItems (Query.ofText .default "Filter") [row, column, domain, range] (-1) :=
    ofSearch_eq_ofItems (by decide +kernel) hd
  clear_value searched
  have hin : searched.members.contains row = true := by
    rw [hsearched.sound.contains_members, heq]
    rfl
  obtain ⟨index, -, -, -, hremove⟩ := hsearched.sound.remove_of_contains hin
  have hrow : ((searched.run []).apply false (.removed row)).1 =
      .removed index ((index : Int) == searched.cursor) := by
    rw [run_nil, Hits.apply, if_neg (by simp [heq, ofItems]), hremove]
  have hnone := (hsearched.reported_iff hrow).2.2 rfl rfl
  rw [hnone] at hrow
  exact ⟨hb, hthird, ((hb.reported_iff hthird).2.1 domain rfl).1 rfl, hsecond,
    (hb.reported_iff hsecond).1.1 rfl, hsearched, index, hrow⟩

/-- In the same run the second node is not the one shown last, and was never shown at all. -/
theorem exists_reported_unshown :
    let row : Node := { id := "node:1", kind := "filter", label := "Row" }
    let column : Node := { id := "node:2", kind := "filter", label := "Column" }
    let domain : Node := { id := "node:3", kind := "filter", label := "Domain" }
    let range : Node := { id := "node:4", kind := "filter", label := "Range" }
    let h := ofItems (Query.ofText .default "Filter") [row, column, domain, range] 2
    let moves : List (Move Node) := [.change false (.removed domain)]
    h.Begins (some domain) ∧
      ((h.run moves).apply false (.removed column)).1 = .removed 1 true ∧
      h.shown moves = [] ∧ h.stillShown (some domain) moves = none ∧
      ¬(true = true ↔ (h.stillShown (some domain) moves).any (· == column) = true) := by
  intro row column domain range h moves
  have hd : Distinct [row, column, domain, range] := by rw [Distinct]; decide +kernel
  obtain ⟨-, hsecond, hitems⟩ := reported_twice_four (Query.ofText .default "Filter") hd
  rw [run_cons, run_nil] at hitems
  have hnone : h.stillShown (some domain) moves = none := by
    rw [stillShown, stillShown, stillShownBy, shownBy, Option.none_or, hitems]
    decide
  refine ⟨begins_four _ hd, hsecond, rfl, hnone, ?_⟩
  rw [hnone]
  decide

end Hits

end LiveFind
