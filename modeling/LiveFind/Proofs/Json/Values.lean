import Mathlib.Data.String.Basic
import LiveFind.Json.Reader

/-!
# What values look like

The values that are held: `WellFormed` says that whole numbers are within 64 bits and that the
members of every object ascend by key, and so that no key occurs twice. Putting members into an
object keeps them ascending (`ascends_insertMember`), and one behind all others goes to the end
(`insertMember_of_lt`). `levels` counts how many arrays and objects stand inside one another, and
`hasFloat` tells whether there is a double anywhere.
-/

namespace LiveFind.Json

/-! ### Nesting -/

mutual

/-- The levels of arrays and objects in a value. -/
def levels : Json → Nat
  | arr items => itemsLevels items + 1
  | obj members => membersLevels members + 1
  | _ => 0

/-- The most levels of an item. -/
def itemsLevels : List Json → Nat
  | [] => 0
  | item :: rest => max item.levels (itemsLevels rest)

/-- The most levels of the value of a member. -/
def membersLevels : List (String × Json) → Nat
  | [] => 0
  | (_, value) :: rest => max value.levels (membersLevels rest)

end

theorem itemsLevels_le_iff {items : List Json} {d : Nat} :
    itemsLevels items ≤ d ↔ ∀ item ∈ items, item.levels ≤ d := by
  induction items with
  | nil => simp [itemsLevels]
  | cons item items ih => rw [itemsLevels, Nat.max_le, ih, List.forall_mem_cons]

theorem membersLevels_le_iff {members : List (String × Json)} {d : Nat} :
    membersLevels members ≤ d ↔ ∀ m ∈ members, m.2.levels ≤ d := by
  induction members with
  | nil => simp [membersLevels]
  | cons m members ih => rw [membersLevels, Nat.max_le, ih, List.forall_mem_cons]

/-! ### Doubles -/

mutual

/-- Whether there is a double in a value. -/
def hasFloat : Json → Bool
  | float _ => true
  | arr items => itemsHaveFloat items
  | obj members => membersHaveFloat members
  | _ => false

/-- Whether there is a double in an item. -/
def itemsHaveFloat : List Json → Bool
  | [] => false
  | item :: rest => item.hasFloat || itemsHaveFloat rest

/-- Whether there is a double in the value of a member. -/
def membersHaveFloat : List (String × Json) → Bool
  | [] => false
  | (_, value) :: rest => value.hasFloat || membersHaveFloat rest

end

/-! ### Members -/

/-- The members have ascending keys. -/
def Ascends (members : List (String × Json)) : Prop :=
  members.Pairwise fun m n ↦ m.1 < n.1

theorem mem_insertMember {key : String} {value : Json} {members : List (String × Json)}
    {m : String × Json} (hm : m ∈ insertMember key value members) :
    m = (key, value) ∨ m ∈ members := by
  induction members with
  | nil => exact .inl (List.mem_singleton.1 hm)
  | cons n members ih =>
    rw [insertMember] at hm
    split at hm
    · exact List.mem_cons.1 hm
    · split at hm
      · rw [List.mem_cons] at hm
        exact hm.imp_right (List.mem_cons_of_mem n)
      · rcases List.mem_cons.1 hm with rfl | hm
        · exact .inr List.mem_cons_self
        · exact (ih hm).imp_right (List.mem_cons_of_mem n)

theorem ascends_insertMember {members : List (String × Json)} (h : Ascends members) (key : String)
    (value : Json) : Ascends (insertMember key value members) := by
  induction members with
  | nil => exact List.pairwise_singleton _ _
  | cons n members ih =>
    obtain ⟨hn, hmembers⟩ := List.pairwise_cons.1 h
    rw [insertMember]
    split
    · rename_i hlt
      refine List.pairwise_cons.2 ⟨fun m hm ↦ ?_, h⟩
      rcases List.mem_cons.1 hm with rfl | hm
      · exact hlt
      · exact String.lt_trans hlt (hn m hm)
    · rename_i hnotLt
      split
      · rename_i heq
        exact List.pairwise_cons.2 ⟨fun m hm ↦ heq ▸ hn m hm, hmembers⟩
      · rename_i hne
        refine List.pairwise_cons.2 ⟨fun m hm ↦ ?_, ih hmembers⟩
        rcases mem_insertMember hm with rfl | hm
        · exact lt_of_le_of_ne (not_lt.1 hnotLt) (Ne.symm hne)
        · exact hn m hm

/-- A member whose key is behind all others goes to the end. -/
theorem insertMember_of_lt {key : String} {members : List (String × Json)}
    (h : ∀ m ∈ members, m.1 < key) (value : Json) :
    insertMember key value members = members ++ [(key, value)] := by
  induction members with
  | nil => rfl
  | cons n members ih =>
    obtain ⟨hn, hmembers⟩ := List.forall_mem_cons.1 h
    rw [insertMember, if_neg (String.lt_asymm hn), if_neg (ne_of_lt hn).symm,
      ih hmembers, List.cons_append]

/-! ### Values -/

/-- A value as it is held. -/
inductive WellFormed : Json → Prop
  | null : WellFormed null
  | bool (b : Bool) : WellFormed (bool b)
  | int {n : Int} (hle : -0x8000000000000000 ≤ n) (hlt : n < 0x10000000000000000) :
    WellFormed (int n)
  | float (bits : UInt64) : WellFormed (float bits)
  | str (s : String) : WellFormed (str s)
  | arr {items : List Json} (hitems : ∀ item ∈ items, WellFormed item) : WellFormed (arr items)
  | obj {members : List (String × Json)} (hkeys : Ascends members)
    (hvalues : ∀ m ∈ members, WellFormed m.2) : WellFormed (obj members)

end LiveFind.Json
