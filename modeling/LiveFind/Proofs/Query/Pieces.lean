import LiveFind.Node
import LiveFind.Proofs.Text.Context
import LiveFind.Query

/-!
# Pieces of a text as queries

Who searches for a piece of a text expects to find the text. A query is lowered on its own, though,
and a `Σ` at the edge of the piece may have another form there than inside the text: `ΑΣ` is
lowered to `ας`, which does not occur in `ασα`, the lower case of `ΑΣΑ`.

The forms of `Σ` are all that can differ. The lowered text has the lowered piece where the piece
stands if and only if each `Σ` of the piece keeps its form, and then the query accepts the item
(`accepts_piece`).
-/

namespace LiveFind

namespace Query

variable {α : Type} [Findable α]

/-- A query that is a piece of the text in which it is looked for has its own lower case in the
place of the piece, between the lower case of what stands before and after it, if and only if each
`Σ` of the piece has the same form there as in the query alone. So an item whose text has such a
place is accepted, and one that has the piece is accepted anyway if the piece is without `Σ`. -/
theorem accepts_piece (p : Pattern) (raw : String) (a : α) {before after : List Char}
    (htext : ((ofText p raw).mode.textOf a).toList = before ++ raw.toList ++ after) :
    (Text.lower ((ofText p raw).mode.textOf a)).toList =
      Text.lowerBetween [] (raw.toList ++ after) before ++
        Text.lowerBetween before.reverse after raw.toList ++
        Text.lowerBetween (raw.toList.reverse ++ before.reverse) [] after ∧
    (Text.lowerBetween before.reverse after raw.toList = (ofText p raw).text.toList ↔
      Text.KeepsSigmas before raw.toList after) ∧
    (Text.KeepsSigmas before raw.toList after → (ofText p raw).accepts a = true) ∧
    ('Σ' ∉ raw.toList → (ofText p raw).accepts a = true) := by
  have hlowered : (ofText p raw).text.toList = Text.lowercase raw.toList := Text.toList_lower raw
  have hpieces : (Text.lower ((ofText p raw).mode.textOf a)).toList = _ :=
    (Text.toList_lower _).trans (htext ▸ Text.lowercase_append_append before raw.toList after)
  have hplace : Text.KeepsSigmas before raw.toList after → (ofText p raw).accepts a = true := by
    intro hkeeps
    rw [accepts, Text.contains_iff, hlowered, hpieces,
      Text.lowerBetween_eq_lowercase_iff.2 hkeeps]
    exact ⟨_, _, rfl⟩
  exact ⟨hpieces, hlowered ▸ Text.lowerBetween_eq_lowercase_iff, hplace,
    fun h ↦ hplace (Text.keepsSigmas_of_not_mem h before after)⟩

/-- The piece ends with a word, so its `Σ` is final in both. -/
theorem accepts_piece_node :
    let a : Node := { id := "node:1", kind := "filter", label := "ΟΔΟΣ Α" }
    let q := ofText .default "ΔΟΣ"
    (q.mode.textOf a).toList = ['Ο'] ++ "ΔΟΣ".toList ++ " Α filter".toList ∧
      Text.KeepsSigmas ['Ο'] "ΔΟΣ".toList " Α filter".toList ∧ q.accepts a = true := by
  intro a q
  have htext : (q.mode.textOf a).toList = ['Ο'] ++ "ΔΟΣ".toList ++ " Α filter".toList := by
    decide +kernel
  have hplace : Text.lowerBetween ['Ο'] " Α filter".toList "ΔΟΣ".toList = q.text.toList := by
    decide +kernel
  obtain ⟨-, hiff, haccepts, -⟩ := accepts_piece .default "ΔΟΣ" a htext
  exact ⟨htext, hiff.1 hplace, haccepts (hiff.1 hplace)⟩

/-- The `Σ` of the piece is final in the piece alone, and not in the text. -/
theorem exists_piece_not_accepted :
    let a : Node := { id := "node:1", kind := "filter", label := "ΑΣΑ" }
    let q := ofText .default "ΑΣ"
    "ΑΣ".toList <:+: (q.mode.textOf a).toList ∧ q.mode = .text ∧ q.accepts a = false := by
  intro a q
  have htext : (q.mode.textOf a).toList = [] ++ "ΑΣ".toList ++ "Α filter".toList := by
    decide +kernel
  have hmode : q.mode = .text := by decide +kernel
  have hrefused : q.accepts a = false := by decide +kernel
  exact ⟨⟨[], _, htext.symm⟩, hmode, hrefused⟩

end Query

end LiveFind
