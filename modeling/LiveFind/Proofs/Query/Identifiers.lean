import Mathlib
import LiveFind.Proofs.Pattern.Identifier
import LiveFind.Proofs.Text.PlainCase
import LiveFind.Query

/-!
# Texts that look like identifiers

With the default pattern a query is looked for among identifiers if and only if what was typed has
the form of one: `#`, or `node:` in any case, or neither, and then groups of decimal digits with a
colon between each two (`mode_ofText_default_iff`).

The pattern is matched against the lower case of what was typed, so the form has to be carried back
through lowering. All characters of a lowered identifier are plain: nothing but they themselves and
their ASCII capitals is lowered to them (`Text.lowercase_eq_iff`). What stands before the groups may
have had capitals, while the groups have no letters at all (`map_toLower_eq_iff`).
-/

namespace LiveFind

/-- A text without ASCII letters is the ASCII lower case of itself only. -/
theorem map_toLower_eq_iff {cs s : List Char} (hs : ∀ d ∈ s, d.isAlpha = false) :
    cs.map Char.toLower = s ↔ cs = s := by
  have hsame : ∀ {l : List Char}, (∀ c ∈ l, c.isAlpha = false) → l.map Char.toLower = l := by
    intro l hl
    have hfix : ∀ c ∈ l, c.toLower = c := by
      intro c hc
      refine Char.toLower_eq_of_not_isUpper fun hupper ↦ ?_
      have halpha := hl c hc
      rw [Char.isAlpha, hupper, Bool.true_or] at halpha
      cases halpha
    rw [List.map_congr_left hfix, List.map_id']
  constructor
  · rintro rfl
    refine (hsame fun c hc ↦ ?_).symm
    rw [← Char.isAlpha_toLower_eq_isAlpha]
    exact hs _ (List.mem_map_of_mem hc)
  · rintro rfl
    exact hsame hs

namespace Pattern

theorem isPlain_of_digit {c : Char} (h : CharClass.digit.mem c = true) : Text.IsPlain c := by
  rw [CharClass.mem, Bool.and_eq_true] at h
  exact Text.isPlain_of_isDecimalDigit h.1

theorem isAlpha_of_digit {c : Char} (h : CharClass.digit.mem c = true) : c.isAlpha = false := by
  rw [CharClass.mem, Bool.and_eq_true] at h
  obtain ⟨r, hr, hle, hge⟩ := (Text.covers_iff Text.ascending_decimalDigits c.toNat).1 h.1
  have hletters : ∀ r ∈ Text.decimalDigits, r.2 < 0x41 ∨ 0x7A < r.1 := by decide
  have hout := hletters r hr
  simp only [Char.isAlpha, Char.isUpper, Char.isLower, UInt32.le_iff_toNat_le,
    Bool.or_eq_false_iff, Bool.and_eq_false_iff, decide_eq_false_iff_not]
  constructor <;> simp <;> omega

/-- Groups are digits and colons. -/
theorem IsGrouped.eq_colon_or_digit {cs : List Char} (h : IsGrouped cs) {c : Char} (hc : c ∈ cs) :
    c = ':' ∨ CharClass.digit.mem c = true := by
  obtain ⟨group, groups, hgroup, hgroups, rfl⟩ := isGrouped_iff.1 h
  rw [List.mem_append, List.mem_flatMap] at hc
  rcases hc with hc | ⟨group', hgroup', hc⟩
  · exact .inr (hgroup.2 c hc)
  · rcases List.mem_cons.1 hc with rfl | hc
    · exact .inl rfl
    · exact .inr ((hgroups group' hgroup').2 c hc)

theorem IsGrouped.isPlain {cs : List Char} (h : IsGrouped cs) : ∀ c ∈ cs, Text.IsPlain c := by
  intro c hc
  rcases h.eq_colon_or_digit hc with rfl | hdigit
  · decide
  · exact isPlain_of_digit hdigit

theorem IsGrouped.isAlpha {cs : List Char} (h : IsGrouped cs) : ∀ c ∈ cs, c.isAlpha = false := by
  intro c hc
  rcases h.eq_colon_or_digit hc with rfl | hdigit
  · decide
  · exact isAlpha_of_digit hdigit

end Pattern

namespace Query

open Pattern

/-- The form of an identifier, whatever the case of its letters. -/
def IsIdentifier (cs : List Char) : Prop :=
  ∃ lead rest, cs = lead ++ rest ∧
    (lead = [] ∨ lead = ['#'] ∨ lead.map Char.toLower = ['n', 'o', 'd', 'e', ':']) ∧
    IsGrouped rest

theorem isIdentifier_iff {cs : List Char} : IsIdentifier cs ↔
    ∃ lead rest, cs.map Char.toLower = lead ++ rest ∧
      (lead = [] ∨ lead = ['n', 'o', 'd', 'e', ':'] ∨ lead = ['#']) ∧ IsGrouped rest := by
  have hsharp : ∀ {lead : List Char}, lead.map Char.toLower = ['#'] ↔ lead = ['#'] :=
    map_toLower_eq_iff (List.forall_mem_singleton.2 (by decide))
  constructor
  · rintro ⟨lead, rest, rfl, hlead, hrest⟩
    refine ⟨lead.map Char.toLower, rest, ?_, ?_, hrest⟩
    · rw [List.map_append, (map_toLower_eq_iff hrest.isAlpha).2 rfl]
    · rw [hsharp, List.map_eq_nil_iff, or_comm (a := _ = ['n', 'o', 'd', 'e', ':'])]
      exact hlead
  · rintro ⟨_, rest, hcs, hlead, hrest⟩
    obtain ⟨lead, rest', rfl, rfl, hrest'⟩ := List.map_eq_append_iff.1 hcs
    rw [(map_toLower_eq_iff hrest.isAlpha).1 hrest']
    rw [hsharp, List.map_eq_nil_iff, or_comm (a := _ = ['n', 'o', 'd', 'e', ':'])] at hlead
    exact ⟨lead, rest, rfl, hlead, hrest⟩

/-- With the default pattern a query is looked for among identifiers if and only if what was typed
is an optional `#` or `node:`, in any case, and then groups of decimal digits with a colon between
each two, and nothing else. -/
theorem mode_ofText_default_iff (raw : String) :
    (ofText .default raw).mode = .identifier ↔ IsIdentifier raw.toList := by
  have hmode : (ofText .default raw).mode = .identifier ↔
      Pattern.default.occursIn (Text.lower raw) = true := by
    rw [ofText, modeOf]
    split <;> simp_all
  rw [hmode, occursIn_default_iff, isIdentifier_iff, Text.toList_lower]
  refine exists_congr fun lead ↦ exists_congr fun rest ↦ and_congr_left fun ⟨hlead, hrest⟩ ↦ ?_
  refine Text.lowercase_eq_iff (fun c hc ↦ ?_) _
  rcases List.mem_append.1 hc with hc | hc
  · rcases hlead with rfl | rfl | rfl
    · cases hc
    · simp only [List.mem_cons, List.not_mem_nil, or_false] at hc
      rcases hc with rfl | rfl | rfl | rfl | rfl <;> decide
    · rw [List.mem_singleton.1 hc]
      decide
  · exact hrest.isPlain c hc

end Query

end LiveFind
