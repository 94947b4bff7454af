import LiveFind.Node
import LiveFind.Proofs.Json.Accepted
import LiveFind.Proofs.Json.ReadBack

/-!
# Nodes are read back

A node is read from its own text with all its fields, if its data holds no double and nests no
deeper than the reader allows; if the data nests deeper, the reader says so. Two nodes are the same
if their identifiers are, so that the equality here is the one of structures, not `==`.

In one direction the members are read one after another, each into a field that is still empty, and
a note that is not there is not written and stays out of the draft (`reads_members`). In the other
direction, the data of a node that was read is well formed and within the limit, since it is null or
the value of some member or item (`allowed_of_ofText`).
-/

namespace LiveFind.Node

open Json

/-! ### From a node to its text and back -/

section Takes

variable {d : Draft}

theorem takes_id (hd : d.id = none) (s : String) :
    record.Takes d "id" (.str s) (.ok { d with id := some s }) :=
  Record.takes_string (fun s ↦ ({ d with id := some s } : Draft)) (fun _ _ ↦ hd ▸ rfl) s

theorem takes_kind (hd : d.kind = none) (s : String) :
    record.Takes d "nodeType" (.str s) (.ok { d with kind := some s }) :=
  Record.takes_string (fun s ↦ ({ d with kind := some s } : Draft)) (fun _ _ ↦ hd ▸ rfl) s

theorem takes_label (hd : d.label = none) (s : String) :
    record.Takes d "label" (.str s) (.ok { d with label := some s }) :=
  Record.takes_string (fun s ↦ ({ d with label := some s } : Draft)) (fun _ _ ↦ hd ▸ rfl) s

theorem takes_note (hd : d.note = none) (s : String) :
    record.Takes d "annotation" (.str s) (.ok { d with note := some (some s) }) :=
  Record.takes_optionalString (fun s ↦ ({ d with note := some s } : Draft)) (fun _ _ ↦ hd ▸ rfl) s

theorem takes_data {j : Json} (hj : j.WellFormed) (hfloat : j.hasFloat = false)
    (hd : d.data = none) :
    record.Takes d "data" j (ifAllowed j.levels dataNestLimit { d with data := some j }) :=
  Record.takes_value (fun j ↦ ({ d with data := some j } : Draft)) (fun _ _ ↦ hd ▸ rfl) hj hfloat

end Takes

/-- The draft with all fields of the node. -/
def draft (a : Node) : Draft where
  id := some a.id
  kind := some a.kind
  label := some a.label
  note := a.note.map some
  data := some a.data

theorem finish_draft (a : Node) : a.draft.finish = .ok a := by
  obtain ⟨id, kind, label, note, data⟩ := a
  cases note <;> rfl

/-- The members of a node fill the draft, unless its data nests too deep. -/
theorem reads_members {a : Node} (hdata : a.data.WellFormed) (hfloat : a.data.hasFloat = false) :
    record.Reads {} a.members (ifAllowed a.data.levels dataNestLimit a.draft) := by
  obtain ⟨id, kind, label, note, data⟩ := a
  -- the data comes last, and so the chain starts there
  have hlast {d : Draft} (hd : d.data = none) :=
    Record.reads_singleton (takes_data hdata hfloat hd)
  cases note with
  | none =>
    exact (((hlast rfl).cons (takes_label rfl label)).cons (takes_kind rfl kind)).cons
      (takes_id rfl id)
  | some note =>
    exact ((((hlast rfl).cons (takes_note rfl note)).cons (takes_label rfl label)).cons
      (takes_kind rfl kind)).cons (takes_id rfl id)

theorem ofText_toText_eq_ifAllowed {a : Node} (hdata : a.data.WellFormed)
    (hfloat : a.data.hasFloat = false) :
    ofText a.toText = ifAllowed a.data.levels dataNestLimit a := by
  rw [ofText, toText, toJson, (reads_members hdata hfloat).readText, ifAllowed, ifAllowed]
  split
  · exact finish_draft a
  · rfl

/-! ### From a text to a node -/

theorem allowed_getD {data : Option Json} (h : ∀ j, data = some j → Allowed dataNestLimit j) :
    Allowed dataNestLimit (data.getD .null) := by
  cases data with
  | none => exact allowed_of_levels_eq_zero .null rfl dataNestLimit
  | some j => exact h j rfl

/-- The data met so far is well formed and within the limit. -/
def Draft.DataAllowed (d : Draft) : Prop :=
  ∀ j, d.data = some j → Allowed dataNestLimit j

/-- Only the member of the data changes the data. -/
theorem Draft.DataAllowed.yields_member {d : Draft} (hd : d.DataAllowed) (fuel : Nat)
    (key : String) (cs : List Char) :
    Yields (d.member fuel key cs) fun e ↦ e.1.DataAllowed := by
  have hkeep {α : Type} {name : String} {current : Option α} {set : α → Draft}
      {read : List Char → Except Fault (α × List Char)} (hset : ∀ a, (set a).data = d.data) :
      Yields (fillField name current set read cs) fun e ↦ e.1.DataAllowed :=
    yields_fillField (R := fun _ ↦ True) (fun _ ↦ yields_true _)
      (fun a _ j hj ↦ hd j (hset a ▸ hj)) cs
  unfold member
  split
  · exact hkeep fun _ ↦ rfl
  · exact hkeep fun _ ↦ rfl
  · exact hkeep fun _ ↦ rfl
  · exact hkeep fun _ ↦ rfl
  · exact yields_fillField (yields_readValue fuel dataNestLimit)
      (fun j hj k hk ↦ Option.some.inj hk ▸ hj) cs
  · exact (yields_true _).map fun _ _ ↦ hd

theorem Draft.DataAllowed.yields_finish {d : Draft} (hd : d.DataAllowed) :
    Yields d.finish fun a ↦ Allowed dataNestLimit a.data :=
  (yields_true _).bind fun _ _ ↦ (yields_true _).bind fun _ _ ↦ (yields_true _).bind fun _ _ ↦
    yields_ok (allowed_getD hd)

theorem yields_readItems (fuel : Nat) (cs : List Char) :
    Yields (readItems fuel cs) fun a ↦ Allowed dataNestLimit a.1.data := by
  -- the data is behind three strings, each of which has to be there, and the note
  iterate 7 refine (yields_true _).bind fun _ _ ↦ ?_
  exact (yields_nextField (yields_readValue fuel dataNestLimit) _).bind fun _ h ↦
    yields_ok (allowed_getD h)

/-- Whatever text a node was read from, its data can be written and read again. -/
theorem allowed_of_ofText {text : String} {a : Node} (h : ofText text = .ok a) :
    Allowed dataNestLimit a.data := by
  have hempty : record.empty.DataAllowed := fun j hj ↦ by cases hj
  exact Record.yields_readText (P := fun a : Node ↦ Allowed dataNestLimit a.data) hempty
    (fun fuel _ key cs hd ↦ hd.yields_member fuel key cs) yields_readItems
    (fun _ hd ↦ hd.yields_finish) text.toList a h

/-- A node whose data holds no double is read back from its text with all its fields, a note that is
empty or not there included, if the data nests no more than 126 levels, and otherwise its text nests
too deep. So whatever text a node was read from, its own text stays the same when it is read and
written again. -/
theorem ofText_toText :
    (∀ a : Node, a.data.WellFormed → a.data.hasFloat = false →
      ofText a.toText = if a.data.levels ≤ 126 then .ok a else .error .nestedTooDeep) ∧
    ∀ (text : String) (a : Node), ofText text = .ok a → a.data.hasFloat = false →
      (ofText a.toText).map toText = .ok a.toText := by
  refine ⟨fun a hdata hfloat ↦ ofText_toText_eq_ifAllowed hdata hfloat, fun text a h hfloat ↦ ?_⟩
  obtain ⟨hdata, hlevels⟩ := allowed_of_ofText h
  rw [ofText_toText_eq_ifAllowed hdata hfloat, ifAllowed, if_pos hlevels]
  rfl

/-- A node with an empty note and both ends of the range of whole numbers in its data, one whose
data nests one level too deep, and a text with its members in another order, an escape and a member
that is passed over. -/
theorem ofText_toText_nodes :
    let ends : Json :=
      .obj [("low", .arr [.int (-0x8000000000000000)]), ("top", .int 0xffffffffffffffff)]
    let noted : Node :=
      { id := "node:1", kind := "sorter", label := "é\n\x01\"\\", note := some "", data := ends }
    let deep : Node :=
      { id := "node:2", kind := "sorter", label := "Deep", data := (fun j ↦ .arr [j])^[127] .null }
    let text :=
      "\x7b\"label\": \"\\u00e9\", \"id\": \"\", \"at\": [1], \"nodeType\": \"\", \"data\": [7]\x7d"
    (ends.WellFormed ∧ ends.hasFloat = false ∧ ofText noted.toText = .ok noted) ∧
      (deep.data.WellFormed ∧ deep.data.hasFloat = false ∧
        ofText deep.toText = .error .nestedTooDeep) ∧
      ∃ a, ofText text = .ok a ∧ a.data.hasFloat = false ∧
        (ofText a.toText).map toText = .ok a.toText := by
  intro ends noted deep text
  have hends : ends.WellFormed := by
    refine .obj (List.pairwise_pair.2 (by decide))
      (List.forall_mem_cons.2 ⟨.arr ?_, List.forall_mem_singleton.2 ?_⟩)
    · exact List.forall_mem_singleton.2 (.int (by decide) (by decide))
    · exact .int (by decide) (by decide)
  have hdeep : deep.data.WellFormed :=
    Function.Iterate.rec WellFormed .null (fun _ hj ↦ .arr (List.forall_mem_singleton.2 hj)) 127
  have hread : ofText text = .ok { id := "", kind := "", label := "é", data := .arr [.int 7] } := by
    rw [ofText, String.toList_ofList]
    rfl
  have hnoted := ofText_toText.1 noted hends rfl
  have htooDeep := ofText_toText.1 deep hdeep (by decide +kernel)
  rw [if_pos (by decide)] at hnoted
  rw [if_neg (by decide +kernel)] at htooDeep
  exact ⟨⟨hends, rfl, hnoted⟩, ⟨hdeep, by decide +kernel, htooDeep⟩, _, hread, rfl,
    ofText_toText.2 text _ hread rfl⟩

end LiveFind.Node
