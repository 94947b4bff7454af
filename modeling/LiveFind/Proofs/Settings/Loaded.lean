import LiveFind.Proofs.Json.Fields
import LiveFind.Proofs.Json.Literals
import LiveFind.Settings.Folder

/-!
# Settings are loaded field by field

What settings a file holds whose text is an object. A field that no member names keeps its default,
and a field that one member names is what the value of that member denotes; the two fields do not
depend on one another (`Asked`). There are no other settings, and no settings at all if a field is
named twice or has a value of another kind, be it `null` or a number that does not fit 64 bits.

Reading goes through the members in their order, with a draft of the fields met so far. The members
lead from one draft to another exactly if the values of each key, taken by themselves, fill its
field (`leads_iff`). So the order of members with different keys does not matter, nor does any
member with another key.
-/

namespace LiveFind.Settings

open Json

/-! ### Members -/

/-- What becomes of a draft when settings take a member. -/
def Gives (d : Draft) (key : String) (text : List Char) (next : Draft) : Prop :=
  if key = patternKey then
    d.pattern = none ∧ ∃ s, IsString s text ∧ next = { d with pattern := some s }
  else if key = bufferKey then
    d.buffer = none ∧ ∃ n, IsSize n text ∧ next = { d with buffer := some n }
  else next = d

theorem decides_record : record.Decides Gives := by
  intro fuel d next key m rest rest' hvalue hfuel hrest
  show d.member fuel key _ = _ ↔ _
  rw [Draft.member, Gives]
  split
  · exact fillField_eq_ok_iff fun _ _ ↦ Spaced.readStringField_eq_ok_iff hvalue hfuel
  · split
    · exact fillField_eq_ok_iff fun _ _ ↦ Spaced.readSizeField_eq_ok_iff hvalue hrest
    · rw [hvalue.skips.member hfuel hrest, map_eq_ok_iff]
      constructor
      · rintro ⟨_, heq, hpair⟩
        cases heq
        cases hpair
        exact ⟨rfl, rfl⟩
      · rintro ⟨rfl, rfl⟩
        exact ⟨_, rfl, rfl⟩

/-- The texts of the values of all members with this key. -/
def valuesOf (key : String) (members : List (String × Member)) : List (List Char) :=
  (members.filter (·.1 = key)).map (·.2.value.text)

theorem valuesOf_cons_self (key : String) (m : Member) (members : List (String × Member)) :
    valuesOf key ((key, m) :: members) = m.value.text :: valuesOf key members := by
  simp [valuesOf]

theorem valuesOf_cons_of_ne {key key' : String} (h : key' ≠ key) (m : Member)
    (members : List (String × Member)) :
    valuesOf key ((key', m) :: members) = valuesOf key members := by
  simp [valuesOf, h]

section Fills

variable {β : Type} {asked : β → List Char → Prop}

/-- Values fill a field one after another: each needs the field to be empty. -/
def Fills (asked : β → List Char → Prop) : List (List Char) → Option β → Option β → Prop
  | [], current, last => current = last
  | text :: texts, current, last =>
    current = none ∧ ∃ b, asked b text ∧ Fills asked texts (some b) last

theorem fills_some {texts : List (List Char)} {b : β} {last : Option β} :
    Fills asked texts (some b) last ↔ texts = [] ∧ some b = last := by
  cases texts with
  | nil => simp [Fills]
  | cons text texts => simp [Fills]

/-- What a field holds: its default if there are no values for it, and otherwise what the only value
denotes. -/
def Holds (asked : β → List Char → Prop) (default : β) (texts : List (List Char)) (b : β) : Prop :=
  texts = [] ∧ b = default ∨ ∃ text, texts = [text] ∧ asked b text

/-- An empty field that is filled holds what its values say. -/
theorem exists_fills_iff {texts : List (List Char)} {default b : β} :
    (∃ last, Fills asked texts none last ∧ last.getD default = b) ↔
      Holds asked default texts b := by
  cases texts with
  | nil => simp [Fills, Holds, eq_comm]
  | cons text texts =>
    simp only [Fills, true_and, fills_some, Holds, reduceCtorEq, false_and, false_or,
      List.cons.injEq]
    constructor
    · rintro ⟨_, ⟨b, hb, rfl, rfl⟩, rfl⟩
      exact ⟨text, ⟨rfl, rfl⟩, hb⟩
    · rintro ⟨_, ⟨rfl, rfl⟩, hb⟩
      exact ⟨_, ⟨b, hb, rfl, rfl⟩, rfl⟩

/-- There is at most one value for a field, and it denotes something. -/
def Proper (asked : β → List Char → Prop) (texts : List (List Char)) : Prop :=
  texts.length ≤ 1 ∧ ∀ text ∈ texts, ∃ b, asked b text

theorem exists_holds_iff {texts : List (List Char)} (default : β) :
    (∃ b, Holds asked default texts b) ↔ Proper asked texts := by
  match texts with
  | [] => simp [Holds, Proper]
  | [text] => simp [Holds, Proper]
  | text :: next :: texts => simp [Holds, Proper]

/-- The order of the values does not matter, since there must not be two. -/
theorem Holds.perm {texts texts' : List (List Char)} {default b : β}
    (h : Holds asked default texts b) (hperm : texts.Perm texts') :
    Holds asked default texts' b := by
  rcases h with ⟨rfl, hb⟩ | ⟨text, rfl, hb⟩
  · exact .inl ⟨hperm.nil_eq.symm, hb⟩
  · exact .inr ⟨text, List.singleton_perm.1 hperm |>.symm, hb⟩

end Fills

/-- The members lead from one draft to another exactly if the values of each key fill its field. -/
theorem leads_iff {members : List (String × Member)} {d last : Draft} :
    Leads Gives d members last ↔
      Fills IsString (valuesOf patternKey members) d.pattern last.pattern ∧
        Fills IsSize (valuesOf bufferKey members) d.buffer last.buffer := by
  have hkeys : bufferKey ≠ patternKey := by decide
  induction members generalizing d with
  | nil =>
    obtain ⟨pattern, buffer⟩ := d
    obtain ⟨pattern', buffer'⟩ := last
    simp [Leads, valuesOf, Fills]
  | cons m members ih =>
    obtain ⟨key, m⟩ := m
    simp only [Leads, Gives, ih]
    by_cases hpattern : key = patternKey
    · subst hpattern
      rw [valuesOf_cons_self, valuesOf_cons_of_ne hkeys.symm, Fills]
      simp only [if_true]
      constructor
      · rintro ⟨_, ⟨hnone, s, hs, rfl⟩, hpatterns, hbuffers⟩
        exact ⟨⟨hnone, s, hs, hpatterns⟩, hbuffers⟩
      · rintro ⟨⟨hnone, s, hs, hpatterns⟩, hbuffers⟩
        exact ⟨_, ⟨hnone, s, hs, rfl⟩, hpatterns, hbuffers⟩
    · rw [valuesOf_cons_of_ne hpattern]
      by_cases hbuffer : key = bufferKey
      · subst hbuffer
        rw [valuesOf_cons_self, Fills]
        simp only [if_neg hpattern, if_true]
        constructor
        · rintro ⟨_, ⟨hnone, n, hn, rfl⟩, hpatterns, hbuffers⟩
          exact ⟨hpatterns, hnone, n, hn, hbuffers⟩
        · rintro ⟨hpatterns, hnone, n, hn, hbuffers⟩
          exact ⟨_, ⟨hnone, n, hn, rfl⟩, hpatterns, hbuffers⟩
      · rw [valuesOf_cons_of_ne hbuffer]
        simp only [if_neg hpattern, if_neg hbuffer]
        exact exists_eq_left

/-! ### Files -/

/-- The settings that an object with these members holds. -/
def Asked (members : List (String × Member)) (s : Settings) : Prop :=
  let default : Settings := {}
  Holds IsString default.pattern (valuesOf patternKey members) s.pattern ∧
    Holds IsSize default.buffer (valuesOf bufferKey members) s.buffer

theorem ofText_eq_ok_iff {members : List (String × Member)} {text : String}
    (h : IsObject members text.toList) {s : Settings} : ofText text = .ok s ↔ Asked members s := by
  rw [ofText, decides_record.readText_eq_ok_iff h, Asked]
  simp only [← exists_fills_iff]
  constructor
  · rintro ⟨last, hleads, hfinish⟩
    obtain ⟨hpattern, hbuffer⟩ := leads_iff.1 hleads
    cases hfinish
    exact ⟨⟨_, hpattern, rfl⟩, _, hbuffer, rfl⟩
  · obtain ⟨pattern, buffer⟩ := s
    rintro ⟨⟨pattern, hpattern, rfl⟩, buffer, hbuffer, rfl⟩
    exact ⟨{ pattern, buffer }, leads_iff.2 ⟨hpattern, hbuffer⟩, rfl⟩

theorem exists_asked_iff {members : List (String × Member)} :
    (∃ s, Asked members s) ↔ Proper IsString (valuesOf patternKey members) ∧
      Proper IsSize (valuesOf bufferKey members) := by
  let default : Settings := {}
  rw [← exists_holds_iff default.pattern, ← exists_holds_iff default.buffer]
  constructor
  · rintro ⟨s, hpattern, hbuffer⟩
    exact ⟨⟨_, hpattern⟩, _, hbuffer⟩
  · rintro ⟨⟨pattern, hpattern⟩, buffer, hbuffer⟩
    exact ⟨{ pattern, buffer }, hpattern, hbuffer⟩

theorem Asked.perm {members members' : List (String × Member)} {s : Settings}
    (hperm : ∀ key ∈ [patternKey, bufferKey], (valuesOf key members).Perm (valuesOf key members'))
    (h : Asked members s) : Asked members' s :=
  ⟨h.1.perm (hperm patternKey (by simp)), h.2.perm (hperm bufferKey (by simp))⟩

theorem fromUTF8?_toUTF8 (s : String) : String.fromUTF8? s.toUTF8 = some s :=
  dif_pos s.isValidUTF8

/-- A file with a text is loaded as the text is read. -/
theorem load_file {t : Tree} {folder : Path} {text : String}
    (h : t.entryAt (filePath folder) = .ok (.file text.toUTF8)) :
    load t folder = (ofText text).mapError .parse := by
  rw [load, h]
  show (do (ofText (← (Entry.file text.toUTF8).text.mapError Fault.file)).mapError .parse) = _
  rw [Entry.text, fromUTF8?_toUTF8]
  rfl

theorem load_eq_ok_iff {t : Tree} {folder : Path} {text : String}
    {members : List (String × Member)}
    (hfile : t.entryAt (filePath folder) = .ok (.file text.toUTF8))
    (h : IsObject members text.toList) (s : Settings) :
    load t folder = .ok s ↔ Asked members s := by
  rw [load_file hfile, ← ofText_eq_ok_iff h]
  cases ofText text <;> simp [Except.mapError]

/-- A file whose text is an object. Its settings are loaded exactly if each of the two fields holds
its default, where no member has its key, or what the value of the only such member denotes: a
string for the pattern, and a number below 2⁶⁴ without sign, fraction and exponent for the buffer
size. There are such settings exactly if no key occurs twice and every value is of that form, and
otherwise the text is what is at fault. Nothing else in it matters: two files with the same values
for the two keys, whatever their other members and in whatever order they stand, load the same
settings. -/
theorem load_fieldwise {t : Tree} {folder : Path} {text : String}
    {members : List (String × Member)}
    (hfile : t.entryAt (filePath folder) = .ok (.file text.toUTF8))
    (h : IsObject members text.toList) :
    (∀ s, load t folder = .ok s ↔ Asked members s) ∧
    ((∃ s, load t folder = .ok s) ↔ Proper IsString (valuesOf patternKey members) ∧
      Proper IsSize (valuesOf bufferKey members)) ∧
    ((¬∃ s, load t folder = .ok s) → ∃ fault, load t folder = .error (.parse fault)) ∧
    ∀ {t' : Tree} {folder' : Path} {text' : String} {members' : List (String × Member)},
      t'.entryAt (filePath folder') = .ok (.file text'.toUTF8) → IsObject members' text'.toList →
      (∀ key ∈ [patternKey, bufferKey], (valuesOf key members).Perm (valuesOf key members')) →
      ∀ s, load t folder = .ok s ↔ load t' folder' = .ok s := by
  have hload := load_eq_ok_iff hfile h
  refine ⟨hload, ?_, ?_, fun hfile' h' hperm s ↦ ?_⟩
  · simp only [hload, exists_asked_iff]
  · rw [load_file hfile]
    cases ofText text with
    | error fault => exact fun _ ↦ ⟨fault, rfl⟩
    | ok s => exact fun hnone ↦ absurd ⟨s, rfl⟩ hnone
  · rw [hload, load_eq_ok_iff hfile' h']
    exact ⟨Asked.perm hperm, Asked.perm fun key hkey ↦ (hperm key hkey).symm⟩

/-- The path of the file in the top folder can be used. -/
theorem usableSteps_filePath_top : (filePath ⟨[]⟩).usableSteps = .ok [.enter fileName] := by
  have hname : (filePath ⟨[]⟩).parts.any (·.contains '\x00') = false := by
    simp [filePath, Path.child, fileName]
  rw [Path.usableSteps, hname]
  rfl

theorem entryAt_put_top (e : Entry) :
    (({} : Tree).put (fileName :: Place.top) e).entryAt (filePath ⟨[]⟩) = .ok e := by
  rw [Tree.entryAt, usableSteps_filePath_top]
  rfl

/-- A value with a lone surrogate and a double inside. -/
theorem isValue_nested : IsValue "[\x7b\"\\ud800\": -1.5e3\x7d]".toList := by
  let inner : Member := ⟨.behind [] (inQuotes "\\ud800".toList) (by decide),
    .behind [' '] "-1.5e3".toList (by decide)⟩
  have htext : "[\x7b\"\\ud800\": -1.5e3\x7d]".toList =
      arrayText [] [.behind [] (objectText [] [inner]) (by decide)] := by decide
  have hlone : IsBody ('\\' :: 'u' :: (['d', '8', '0', '0'] ++ [])) :=
    .unit (.mk (i := 13) (j := 8) (k := 0) (l := 0) rfl rfl rfl rfl) .nil
  have hnumber : IsNumber (['-'] ++ (['1'] ++ (('.' :: ['5']) ++ ('e' :: ([] ++ ['3']))))) :=
    .mk (by decide) (by decide) (.places (by decide)) (.power (.inl rfl) (by decide) (by decide))
  rw [htext]
  refine .array (by decide) (List.forall_mem_singleton.2 (.object (by decide) ?_ ?_))
  · exact List.forall_mem_singleton.2 ⟨_, hlone, rfl⟩
  · exact List.forall_mem_singleton.2 (.number hnumber)

/-- A file with a member that is passed over, an escape in a key and the largest size, one with the
same two values in the other order, and two whose size is `null` and one too large. -/
theorem load_fieldwise_files :
    let tree (text : String) : Tree := ({} : Tree).put (fileName :: Place.top) (.file text.toUTF8)
    let full := "\x7b\"x\": [\x7b\"\\ud800\": -1.5e3\x7d], " ++
      "\"eventBufferSize\": 18446744073709551615, \"\\u0069dPattern\": \"\\\\d\"\x7d"
    let short := "\x7b\"idPattern\":\"\\\\d\", \"eventBufferSize\":18446744073709551615\x7d"
    let settings : Settings := { pattern := "\\d", buffer := 0xffffffffffffffff }
    load (tree full) ⟨[]⟩ = .ok settings ∧ load (tree short) ⟨[]⟩ = .ok settings ∧
      (∃ fault, load (tree "\x7b\"eventBufferSize\":null\x7d") ⟨[]⟩ = .error (.parse fault)) ∧
      ∃ fault, load (tree "\x7b\"eventBufferSize\":18446744073709551616\x7d") ⟨[]⟩ =
        .error (.parse fault) := by
  intro tree full short settings
  have hfile (text : String) : (tree text).entryAt (filePath ⟨[]⟩) = .ok (.file text.toUTF8) :=
    entryAt_put_top _
  let size := Nat.toDigits 10 0xffffffffffffffff
  let digit := inQuotes ['\\', '\\', 'd']
  let escaped := inQuotes "\\u0069dPattern".toList
  have hsize : IsSize 0xffffffffffffffff size := by decide
  have hdigit : IsString "\\d" digit := ⟨_, .short (by decide) (.plain (by decide) .nil), rfl⟩
  have hpattern := isString_writeString patternKey
  have hbuffer := isString_writeString bufferKey
  have hescaped : IsString patternKey escaped :=
    ⟨_, .unit (n := 0x69) (.mk (i := 0) (j := 0) (k := 6) (l := 9) rfl rfl rfl rfl) (by decide)
      (by decide) (spells_escaped "dPattern".toList), rfl⟩
  let unknown := "[\x7b\"\\ud800\": -1.5e3\x7d]".toList
  let members : List (String × Member) :=
    [("x", ⟨.behind [] (writeString "x") (by decide), .behind [' '] unknown (by decide)⟩),
      (bufferKey, ⟨.behind [' '] (writeString bufferKey) (by decide),
        .behind [' '] size (by decide)⟩),
      (patternKey, ⟨.behind [' '] escaped (by decide), .behind [' '] digit (by decide)⟩)]
  have hmembers : IsObject members full.toList := by
    rw [show full.toList = objectText [] (members.map (·.2)) by decide]
    exact isObject_objectText (List.forall_mem_cons.2 ⟨⟨isString_writeString "x", isValue_nested⟩,
      List.forall_mem_cons.2 ⟨⟨hbuffer, hsize.1.isValue⟩,
        List.forall_mem_singleton.2 ⟨hescaped, hdigit.isValue⟩⟩⟩) (by decide)
  let swapped : List (String × Member) :=
    [(patternKey, ⟨.behind [] (writeString patternKey) (by decide), .behind [] digit (by decide)⟩),
      (bufferKey, ⟨.behind [' '] (writeString bufferKey) (by decide), .behind [] size (by decide)⟩)]
  have hswapped : IsObject swapped short.toList := by
    rw [show short.toList = objectText [] (swapped.map (·.2)) by decide]
    exact isObject_objectText (List.forall_mem_cons.2 ⟨⟨hpattern, hdigit.isValue⟩,
      List.forall_mem_singleton.2 ⟨hbuffer, hsize.1.isValue⟩⟩) (by decide)
  obtain ⟨hload, -, -, hsame⟩ := load_fieldwise (hfile full) hmembers
  have hfull := (hload settings).2
    ⟨.inr ⟨digit, by decide, hdigit⟩, .inr ⟨size, by decide, hsize⟩⟩
  have hrefused {text : String} (value : List Char) (hvalue : IsValue value)
      (hsize : ∀ n, ¬IsSize n value)
      (htext : text.toList = '\x7b' :: (writeString bufferKey ++ ':' :: (value ++ ['\x7d']))) :
      ∃ fault, load (tree text) ⟨[]⟩ = .error (.parse fault) := by
    let single : List (String × Member) :=
      [(bufferKey, ⟨.behind [] (writeString bufferKey) (by decide), .behind [] value (by decide)⟩)]
    have hsingle : IsObject single text.toList := by
      have hobject : text.toList = objectText [] (single.map (·.2)) := by
        simp [htext, single, Spaced.chars, Spaced.behind, objectText, Member.chars]
      rw [hobject]
      exact isObject_objectText (List.forall_mem_singleton.2 ⟨hbuffer, hvalue⟩) (by decide)
    obtain ⟨-, hloads, hfault, -⟩ := load_fieldwise (hfile text) hsingle
    refine hfault fun hload ↦ ?_
    obtain ⟨n, hn⟩ := (hloads.1 hload).2.2 value (by simp [valuesOf, single, Spaced.behind])
    exact hsize n hn
  refine ⟨hfull, (hsame (hfile short) hswapped (by decide) settings).1 hfull,
    hrefused ['n', 'u', 'l', 'l'] (.word (by decide)) (fun n hn ↦ ?_) (by decide),
    hrefused "18446744073709551616".toList (IsWhole.isValue (by decide)) (fun n hn ↦ ?_)
      (by decide)⟩
  · exact absurd (hn.isDigit List.mem_cons_self) (by decide)
  · exact absurd hn.2.2 (hn.2.1 ▸ by decide)

end LiveFind.Settings
