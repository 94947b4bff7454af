import LiveFind.Node
import LiveFind.Proofs.Hits.Sound
import LiveFind.Proofs.Query.Firsts

/-!
# Where hits start

Hits can be set up from a list of matches and the index of the one that is already shown. The index
is that of the list as it is given, and the cursor is a place among the first of equal matches, so
both agree only as far as nothing before is dropped. `ofMatches_decided` says when a start index is
taken, and that the cursor then stands on the item that equals the match at the start, wherever that
has moved. From there the ring of the hits is walked by places: a step forward adds one modulo their
number, and a step backward takes one away.
-/

namespace LiveFind

namespace Hits

variable {α : Type} [BEq α] [Hashable α] {h : Hits α}

/-- From a place of the ring, a step forward leads to the next place. -/
theorem Sound.next_of_cursor (hs : h.Sound) {k : Nat} (hk : h.cursor = k) :
    ∃ a, h.items[(k + 1) % h.items.length]? = some a ∧
      h.next = .ok (a, { h with cursor := ((k + 1) % h.items.length : Nat) }) := by
  have hlt := hs.cursor_lt
  rcases hs.next_cases with ⟨hnil, -⟩ | ⟨i, hi, hplace, hnext⟩
  · rw [hnil, List.length_nil] at hlt
    omega
  · have hmod : i = (k + 1) % h.items.length := by
      split at hplace
      · rw [Nat.mod_eq_of_lt (by omega)]
        omega
      · rw [show k + 1 = h.items.length by omega, Nat.mod_self]
        omega
    subst hmod
    exact ⟨_, List.getElem?_eq_getElem hi, hnext⟩

/-- From a place of the ring, a step backward leads to the place before. -/
theorem Sound.previous_of_cursor (hs : h.Sound) {k : Nat} (hk : h.cursor = k) :
    ∃ a, h.items[(k + h.items.length - 1) % h.items.length]? = some a ∧
      h.previous =
        .ok (a, { h with cursor := ((k + h.items.length - 1) % h.items.length : Nat) }) := by
  have hlt := hs.cursor_lt
  rcases hs.previous_cases with ⟨hnil, -⟩ | ⟨i, hi, hplace, hprevious⟩
  · rw [hnil, List.length_nil] at hlt
    omega
  · have hmod : i = (k + h.items.length - 1) % h.items.length := by
      split at hplace
      · rw [show k + h.items.length - 1 = k - 1 + h.items.length by omega, Nat.add_mod_right,
          Nat.mod_eq_of_lt (by omega)]
        omega
      · rw [Nat.mod_eq_of_lt (by omega)]
        omega
    subst hmod
    exact ⟨_, List.getElem?_eq_getElem hi, hprevious⟩

theorem current?_of_cursor {k : Nat} (hk : h.cursor = k) : h.current? = h.items[k]? := by
  rw [current?, hk, if_neg (by omega), Int.toNat_natCast]

/-! ### Setting up -/

theorem ofMatches_of_some {q : Query} {l : List α} {start : Nat} {a : α} (ha : l[start]? = some a) :
    ofMatches q l start =
      .ok (ofItems q (Query.dropSeen ∅ l)
        (((Query.dropSeen ∅ l).findIdx? (· == a)).getD 0 : Nat)) := by
  rw [ofMatches, ha]

theorem ofMatches_of_none {q : Query} {l : List α} {start : Nat} (hnone : l[start]? = none) :
    ofMatches q l start =
      if l = [] ∧ start = 0 then .ok (ofItems q [] (-1))
      else .error (.startOutOfRange start l.length) := by
  rw [ofMatches, hnone]
  simp only [List.isEmpty_iff]

theorem exists_ofMatches_iff {q : Query} {l : List α} {start : Nat} :
    (∃ h, ofMatches q l start = .ok h) ↔ start < l.length ∨ (l = [] ∧ start = 0) := by
  by_cases hlt : start < l.length
  · exact iff_of_true ⟨_, ofMatches_of_some (List.getElem?_eq_getElem hlt)⟩ (.inl hlt)
  · rw [or_iff_right hlt, ofMatches_of_none (List.getElem?_eq_none (Nat.not_lt.1 hlt))]
    split
    · rename_i hempty
      exact iff_of_true ⟨_, rfl⟩ hempty
    · rename_i hempty
      exact iff_of_false (fun ⟨_, hok⟩ ↦ by cases hok) hempty

variable [EquivBEq α] [LawfulHashable α]

/-- The match at the start is found among the first of equal matches, and it is shown there. -/
theorem exists_start {q : Query} {l : List α} {start : Nat} {a : α} (ha : l[start]? = some a) :
    ∃ (k : Nat) (shown : α),
      ofMatches q l start = .ok (ofItems q (firsts (fun _ ↦ true) l) k) ∧
        (firsts (fun _ ↦ true) l).findIdx? (· == a) = some k ∧
        (firsts (fun _ ↦ true) l)[k]? = some shown ∧ (shown == a) = true := by
  obtain ⟨k, hk, hlt⟩ := exists_findIdx?_dropSeen (List.mem_of_getElem? ha)
  have hok := ofMatches_of_some (q := q) ha
  rw [hk, Option.getD_some, Query.dropSeen_eq_firsts] at hok
  rw [Query.dropSeen_eq_firsts] at hk hlt
  exact ⟨k, _, hok, hk, List.getElem?_eq_getElem hlt,
    (List.findIdx?_eq_some_iff_getElem.1 hk).2.1⟩

/-- A list of matches with a start index gives hits if the index is one of the list, or 0 where the
list is empty. Otherwise the fault names the index and the length of the list as it was given. The
hits are the first of equal matches in their order. The one that equals the match at the start is
always among them, it is shown, and the steps from there lead to the hits next to it in the ring. -/
theorem ofMatches_decided (q : Query) (l : List α) (start : Nat) :
    ((∃ h, ofMatches q l start = .ok h) ↔ start < l.length ∨ (l = [] ∧ start = 0)) ∧
    (¬(start < l.length ∨ (l = [] ∧ start = 0)) →
      ofMatches q l start = .error (.startOutOfRange start l.length)) ∧
    ∀ h, ofMatches q l start = .ok h → l ≠ [] →
      h.query = q ∧ h.items = firsts (fun _ ↦ true) l ∧ Distinct h.items ∧
        (∀ a, h.items.contains a = l.contains a) ∧
        ∃ (k : Nat) (a shown : α),
          l[start]? = some a ∧ h.items.findIdx? (· == a) = some k ∧ h.cursor = k ∧
            h.items[k]? = some shown ∧ (shown == a) = true ∧ h.current? = some shown ∧
            (∃ b, h.items[(k + 1) % h.items.length]? = some b ∧
              h.next = .ok (b, { h with cursor := ((k + 1) % h.items.length : Nat) })) ∧
            ∃ b, h.items[(k + h.items.length - 1) % h.items.length]? = some b ∧
              h.previous = .ok
                (b, { h with cursor := ((k + h.items.length - 1) % h.items.length : Nat) }) := by
  refine ⟨exists_ofMatches_iff, fun hout ↦ ?_, fun h hok hne ↦ ?_⟩
  · rw [not_or] at hout
    rw [ofMatches_of_none (List.getElem?_eq_none (Nat.not_lt.1 hout.1)), if_neg hout.2]
  · have hlt : start < l.length :=
      (exists_ofMatches_iff.1 ⟨h, hok⟩).resolve_right fun hempty ↦ hne hempty.1
    have hs : h.Sound := sound_ofMatches hok
    obtain ⟨k, shown, hstart, hk, hshown, heq⟩ :=
      exists_start (q := q) (List.getElem?_eq_getElem hlt)
    rw [hok, Except.ok.injEq] at hstart
    have hitems : h.items = firsts (fun _ ↦ true) l := by rw [hstart, ofItems]
    have hcursor : h.cursor = k := by rw [hstart, ofItems]
    refine ⟨by rw [hstart, ofItems], hitems, hs.distinct, fun a ↦ ?_, k, l[start], shown,
      List.getElem?_eq_getElem hlt, by rw [hitems, hk], hcursor, by rw [hitems, hshown], heq,
      by rw [current?_of_cursor hcursor, hitems, hshown], hs.next_of_cursor hcursor,
      hs.previous_of_cursor hcursor⟩
    rw [hitems, ← Query.dropSeen_eq_firsts, Query.contains_dropSeen, Std.HashSet.contains_empty,
      Bool.not_false, Bool.true_and]

/-- The start is the second of two equal matches, and a match before it is dropped as well. What is
shown is the first of the two. -/
theorem ofMatches_decided_nodes :
    let row : Node := { id := "node:1", kind := "filter", label := "Row" }
    let column : Node := { id := "node:2", kind := "filter", label := "Column" }
    let domain : Node := { id := "node:3", kind := "filter", label := "Domain" }
    let renamedRow : Node := { id := "node:1", kind := "filter", label := "Renamed" }
    let renamedColumn : Node := { id := "node:2", kind := "filter", label := "Renamed" }
    let q := Query.ofText .default "Filter"
    let l := [row, column, renamedRow, renamedColumn, domain]
    ofMatches q l 5 = .error (.startOutOfRange 5 5) ∧
      ∃ h, ofMatches q l 3 = .ok h ∧ h.items = [row, column, domain] ∧ h.cursor = 1 ∧
        h.current? = some column ∧ h.next = .ok (domain, { h with cursor := 2 }) ∧
        h.previous = .ok (row, { h with cursor := 0 }) := by
  intro row column domain renamedRow renamedColumn q l
  have hplaces : firstPlaces (fun _ ↦ true) l = [0, 1, 4] := by decide +kernel
  have hfirsts : firsts (fun _ ↦ true) l = [row, column, domain] := by rw [firsts, hplaces]; rfl
  obtain ⟨h, hok⟩ := (ofMatches_decided q l 3).1.2 (.inl (by decide))
  obtain ⟨-, hitems, -, -, k, a, shown, ha, hk, hcursor, hshown, -, hcurrent, hnext, hprevious⟩ :=
    (ofMatches_decided q l 3).2.2 h hok (by simp [l])
  have hlen : h.items.length = 3 := by rw [hitems, hfirsts]; rfl
  obtain ⟨b, hb, hnext⟩ := hnext
  obtain ⟨c, hc, hprevious⟩ := hprevious
  rw [hlen] at hb hc hnext hprevious
  rw [hitems, hfirsts] at hk hshown hb hc
  obtain rfl : renamedColumn = a := Option.some.inj ha
  obtain rfl : 1 = k := by
    have hone : [row, column, domain].findIdx? (· == renamedColumn) = some 1 := by decide +kernel
    exact Option.some.inj (hone.symm.trans hk)
  obtain rfl : column = shown := Option.some.inj hshown
  obtain rfl : domain = b := Option.some.inj hb
  obtain rfl : row = c := Option.some.inj hc
  exact ⟨(ofMatches_decided q l 5).2.1 (by decide), h, hok, hitems.trans hfirsts, hcursor, hcurrent,
    hnext, hprevious⟩

end Hits

end LiveFind
