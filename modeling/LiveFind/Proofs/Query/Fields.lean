import Mathlib.Data.List.Infix
import LiveFind.Node
import LiveFind.Proofs.Text.Context
import LiveFind.Query

/-!
# Searching nodes field by field

The text in which a node is searched is its fields joined with blanks. A query that has no blank
cannot reach from one field into the next (`infix_intercalate_iff`), and lowering the joined text
lowers each field on its own, since no `Σ` looks past a blank. So such a query accepts a node if and
only if it occurs in one of its fields, and a node with one more field is accepted for all that the
node was accepted for before (`accepts_fieldwise`).
-/

namespace LiveFind

section Infix

variable {β : Type} {piece l r : List β} {c : β}

/-- A piece without the divider is on one side of it. -/
theorem infix_append_cons_iff (hc : c ∉ piece) :
    piece <:+: l ++ c :: r ↔ piece <:+: l ∨ piece <:+: r := by
  constructor
  · intro h
    rcases List.infix_append_iff.1 h with hl | hr | ⟨p₁, p₂, rfl, hsuffix, hprefix⟩
    · exact .inl hl
    · rcases List.infix_cons_iff.1 hr with hprefix | hr
      · -- a piece that starts at the divider is empty
        cases piece with
        | nil => exact .inl List.nil_infix
        | cons b piece =>
          rw [(List.cons_prefix_cons.1 hprefix).1] at hc
          exact absurd List.mem_cons_self hc
      · exact .inr hr
    · cases p₂ with
      | nil =>
        rw [List.append_nil]
        exact .inl hsuffix.isInfix
      | cons b p₂ =>
        rw [(List.cons_prefix_cons.1 hprefix).1] at hc
        exact absurd (List.mem_append_right p₁ List.mem_cons_self) hc
  · rintro (hl | hr)
    · exact hl.trans (List.prefix_append l _).isInfix
    · exact hr.trans ((List.suffix_cons c r).trans (List.suffix_append l _)).isInfix

/-- A piece without the divider is in one of the parts. -/
theorem infix_intercalate_iff (hc : c ∉ piece) {parts : List (List β)} (hparts : parts ≠ []) :
    piece <:+: [c].intercalate parts ↔ ∃ part ∈ parts, piece <:+: part := by
  induction parts with
  | nil => exact absurd rfl hparts
  | cons part parts ih =>
    cases parts with
    | nil => simp
    | cons part' parts =>
      rw [List.intercalate_cons_cons, List.append_assoc, List.singleton_append,
        infix_append_cons_iff hc, ih (List.cons_ne_nil _ _)]
      exact (List.exists_mem_cons_iff _ part _).symm

end Infix

namespace Query

variable {q : Query} {a : Node}

/-- The text of a node in lower case is its fields in lower case, joined with blanks. -/
theorem lowercase_searchText (a : Node) : Text.lowercase (Findable.searchText a).toList =
    [' '].intercalate (a.searchFields.map fun field ↦ (Text.lower field).toList) := by
  have htext : (Findable.searchText a).toList =
      [' '].intercalate (a.searchFields.map String.toList) := String.toList_intercalate
  rw [htext, Text.lowercase_intercalate, List.map_map]
  simp only [Function.comp_def, Text.toList_lower]

theorem accepts_iff_infix_intercalate (hmode : q.mode = .text) : q.accepts a = true ↔
    q.text.toList <:+:
      [' '].intercalate (a.searchFields.map fun field ↦ (Text.lower field).toList) := by
  rw [accepts, Text.contains_iff, hmode, Text.toList_lower, ← lowercase_searchText]
  exact Iff.rfl

theorem accepts_iff_searchFields (hmode : q.mode = .text) (hblank : ' ' ∉ q.text.toList) :
    q.accepts a = true ↔
      ∃ field ∈ a.searchFields, Text.contains (Text.lower field) q.text = true := by
  rw [accepts_iff_infix_intercalate hmode,
    infix_intercalate_iff hblank (by simp [Node.searchFields])]
  simp only [List.mem_map, exists_exists_and_eq_and, Text.contains_iff]

/-- What is searched in a node with a note begins with what is searched in the node without. -/
theorem accepts_withNote (hnote : a.note = none) (h : q.accepts a = true) (note : String) :
    q.accepts { a with note := some note } = true := by
  cases hmode : q.mode with
  | identifier =>
    rw [accepts, hmode] at h ⊢
    exact h
  | text =>
    rw [accepts_iff_infix_intercalate hmode] at h ⊢
    refine h.trans (List.IsPrefix.isInfix ⟨' ' :: (Text.lower note).toList, ?_⟩)
    simp [Node.searchFields, hnote, List.intercalate_cons_cons]

/-- A query for texts that has no blank accepts a node if and only if it occurs in the lower case of
its label, of its kind or of its note. And whatever accepts a node that has no note accepts it with
any note. -/
theorem accepts_fieldwise (q : Query) (a : Node) :
    (q.mode = .text → ' ' ∉ q.text.toList →
      (q.accepts a = true ↔
        Text.contains (Text.lower a.label) q.text = true ∨
        Text.contains (Text.lower a.kind) q.text = true ∨
        ∃ note, a.note = some note ∧ Text.contains (Text.lower note) q.text = true)) ∧
    (a.note = none → q.accepts a = true →
      ∀ note, q.accepts { a with note := some note } = true) := by
  refine ⟨fun hmode hblank ↦ ?_, accepts_withNote⟩
  rw [accepts_iff_searchFields hmode hblank, Node.searchFields, List.exists_mem_cons_iff,
    List.exists_mem_cons_iff]
  simp only [Option.mem_toList]

/-- The label ends with a `Σ` that the blank makes final, and the query is found in the note. -/
theorem accepts_fieldwise_node :
    let a : Node := { id := "node:1", kind := "filter", label := "ΟΔΟΣ", note := some "ΣΑΣ" }
    let q : Query := { text := "σας", mode := .text }
    q.mode = .text ∧ ' ' ∉ q.text.toList ∧ q.accepts a = true ∧
      q.accepts { a with note := none } = false ∧
      ({ text := "δος", mode := .text } : Query).accepts { a with note := none } = true := by
  intro a q
  have hblank : ' ' ∉ q.text.toList := by decide +kernel
  have hfield : Text.contains (Text.lower "ΣΑΣ") q.text = true := by decide +kernel
  have hrefused : q.accepts { a with note := none } = false := by decide +kernel
  have hlabel : ({ text := "δος", mode := .text } : Query).accepts { a with note := none } = true :=
    ((accepts_fieldwise _ _).1 rfl (by decide +kernel)).2 (.inl (by decide +kernel))
  exact ⟨rfl, hblank, ((accepts_fieldwise q a).1 rfl hblank).2 (.inr (.inr ⟨_, rfl, hfield⟩)),
    hrefused, hlabel⟩

end Query

end LiveFind
