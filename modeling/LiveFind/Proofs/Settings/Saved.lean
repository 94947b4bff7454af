import LiveFind.Proofs.Settings.Loaded
import LiveFind.Proofs.Settings.Trees

/-!
# Settings are loaded as they were saved

What was saved last is what is loaded, whatever the file held before. There are two sides to it. The
text of settings is an object with both members, whatever the pattern and the size, and it reads
back as the same settings (`ofText_toText_of_fits`). And the file that was written is the one that
is found again, also after others were written in its place (`written_saveAll`).
-/

namespace LiveFind.Settings

open Json

/-! ### Texts -/

/-- The buffer size fits 64 bits. -/
def Fits (s : Settings) : Prop :=
  s.buffer < 0x10000000000000000

instance (s : Settings) : Decidable s.Fits :=
  inferInstanceAs (Decidable (s.buffer < 0x10000000000000000))

/-- The members of the text of settings. -/
def members (s : Settings) : List (String × Member) :=
  [(patternKey, ⟨.behind ['\n', ' ', ' '] (writeString patternKey) (by decide),
      .behind [' '] (writeString s.pattern) (by decide)⟩),
    (bufferKey, ⟨.behind ['\n', ' ', ' '] (writeString bufferKey) (by decide),
      { before := [' '], text := Nat.toDigits 10 s.buffer, after := ['\n'],
        isBlank_before := by decide, isBlank_after := by decide }⟩)]

theorem isObject_write (s : Settings) : IsObject s.members s.write := by
  have htext : s.write = objectText [] (s.members.map (·.2)) := by
    simp [write, members, objectText, Member.chars, Spaced.chars, Spaced.behind, Json.write,
      writeInt]
  rw [htext]
  exact isObject_objectText (List.forall_mem_cons.2
    ⟨⟨isString_writeString patternKey, (isString_writeString s.pattern).isValue⟩,
      List.forall_mem_singleton.2 ⟨isString_writeString bufferKey, (isWhole_toDigits _).isValue⟩⟩)
    (by decide)

theorem asked_members {s : Settings} (hs : s.Fits) : Asked s.members s :=
  ⟨.inr ⟨writeString s.pattern, rfl, isString_writeString s.pattern⟩,
    .inr ⟨Nat.toDigits 10 s.buffer, rfl, isWhole_toDigits _, Nat.ofDigitChars_ten_toDigits, hs⟩⟩

theorem ofText_toText_of_fits {s : Settings} (hs : s.Fits) : ofText s.toText = .ok s :=
  (ofText_eq_ok_iff (by rw [toText, String.toList_ofList]; exact s.isObject_write)).2
    (asked_members hs)

/-! ### Files -/

section Save

variable {t t' : Tree} {folder : Path}

theorem save_eq_ok_iff {s : Settings} :
    s.save t folder = (.ok (), t') ↔
      t.addFile folder fileName s.toText.toUTF8 = (.ok (), t') := by
  rw [save]
  obtain ⟨r, u⟩ := t.addFile folder fileName s.toText.toUTF8
  cases r <;> simp [Except.mapError]

/-- Saving settings writes their text. -/
theorem written_of_save {s : Settings} (h : s.save t folder = (.ok (), t')) :
    t'.Written folder fileName s.toText.toUTF8 :=
  Tree.written_of_addFile (save_eq_ok_iff.1 h)

/-- Settings can be saved wherever a file with settings stands. -/
theorem exists_save_of_written {content : ByteArray} (h : t.Written folder fileName content)
    (s : Settings) : ∃ t', s.save t folder = (.ok (), t') := by
  obtain ⟨t', ht'⟩ := h.addFile (by decide) s.toText.toUTF8
  exact ⟨t', save_eq_ok_iff.2 ht'⟩

theorem load_of_written {s : Settings} (hs : s.Fits)
    (h : t.Written folder fileName s.toText.toUTF8) : load t folder = .ok s := by
  rw [load_file h.2, ofText_toText_of_fits hs]
  rfl

end Save

/-- The tree after settings were saved in a folder one after another. -/
def saveAll (t : Tree) (folder : Path) (saved : List Settings) : Tree :=
  saved.foldl (fun t s ↦ (s.save t folder).2) t

/-- Once settings were saved, all later ones can be saved, and the last ones are what stands in the
file. -/
theorem written_saveAll {t : Tree} {folder : Path} {s : Settings}
    (h : t.Written folder fileName s.toText.toUTF8) (later : List Settings) :
    (saveAll t folder later).Written folder fileName (later.getLastD s).toText.toUTF8 := by
  induction later generalizing t s with
  | nil => exact h
  | cons r later ih =>
    obtain ⟨t', ht'⟩ := exists_save_of_written h r
    rw [saveAll, List.foldl_cons, ht', List.getLastD_cons]
    exact ih (written_of_save ht')

/-- Whatever stood there before, settings that were saved in a folder are loaded from it as they
are: their pattern need not be one, and a buffer size of 0 stays 0. After that settings can be
saved there any number of times, and the last ones are loaded. -/
theorem load_save {t t' : Tree} {folder : Path} {s : Settings} (hs : s.Fits)
    (h : s.save t folder = (.ok (), t')) :
    load t' folder = .ok s ∧ ∀ later : List Settings, (∀ r ∈ later, r.Fits) →
      load (saveAll t' folder later) folder = .ok (later.getLastD s) ∧
        ∀ r : Settings, (r.save (saveAll t' folder later) folder).1 = .ok () := by
  have hwritten := written_of_save h
  refine ⟨load_of_written hs hwritten, fun later hlater ↦ ?_⟩
  have hlast := written_saveAll hwritten later
  refine ⟨load_of_written ?_ hlast, fun r ↦ ?_⟩
  · rw [List.getLastD_eq_getLast?]
    cases hget : later.getLast? with
    | none => exact hs
    | some r => exact hlater r (List.mem_of_getLast? hget)
  · obtain ⟨t'', ht''⟩ := exists_save_of_written hlast r
    rw [ht'']

/-- Settings whose pattern is none, with everything that has to be escaped and no buffer, are saved
over a file that holds something else, and then the largest ones over them. -/
theorem load_save_over :
    let t : Tree := ({} : Tree).put (fileName :: Place.top) (.file "not settings".toUTF8)
    let odd : Settings := { pattern := "([\"\\\n\x01é", buffer := 0 }
    let large : Settings := { buffer := 0xffffffffffffffff }
    load t ⟨[]⟩ = .error (.parse .wordExpected) ∧ ∃ t', odd.save t ⟨[]⟩ = (.ok (), t') ∧
      load t' ⟨[]⟩ = .ok odd ∧ load (large.save t' ⟨[]⟩).2 ⟨[]⟩ = .ok large := by
  intro t odd large
  have hwritten : t.Written ⟨[]⟩ fileName "not settings".toUTF8 := ⟨⟨[], rfl⟩, entryAt_put_top _⟩
  obtain ⟨t', ht'⟩ := exists_save_of_written hwritten odd
  obtain ⟨hodd, hlater⟩ := load_save (by decide) ht'
  have hnone : load t ⟨[]⟩ = .error (.parse .wordExpected) := by
    rw [load_file hwritten.2, ofText, String.toList_ofList]
    rfl
  exact ⟨hnone, t', ht', hodd, (hlater [large] (by decide)).1⟩

end LiveFind.Settings
