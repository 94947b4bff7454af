import LiveFind.Proofs.Answers
import LiveFind.Settings.Tree

/-!
# Files stay where they were written

A file that was written is found again at the same path, although the tree is another one. A path
only leads through folders, and what was written to is none; so every walk that came to an end
before comes to the same end afterwards (`foldlM_move_put`). By that the folder of a file that was
written is there as well, and the file can be written again (`addFile_of_written`).
-/

namespace LiveFind.Settings.Tree

variable {t t' : Tree} {place p q : Place}

/-! ### Walks -/

/-- A step leads from a folder. -/
theorem get?_of_move {s : Step} (h : t.move p s = .ok q) : t.get? p = some .folder := by
  rw [move.eq_def] at h
  split at h
  · cases h
  · cases h
  · assumption

theorem move_put (hplace : place ≠ []) (hfolder : t.get? place ≠ some .folder) (e : Entry)
    {s : Step} (h : t.move p s = .ok q) : (t.put place e).move p s = .ok q := by
  have hp := get?_of_move h
  have hne : p ≠ place := by
    rintro rfl
    exact hfolder hp
  have hget : (t.put place e).get? p = t.get? p := by rw [get?_put hplace, if_neg hne]
  rw [move.eq_def] at h ⊢
  rwa [hget]

/-- What is put where no folder stands is in the way of no steps that led somewhere. -/
theorem foldlM_move_put (hplace : place ≠ []) (hfolder : t.get? place ≠ some .folder) (e : Entry)
    {steps : List Step} (h : steps.foldlM t.move p = .ok q) :
    steps.foldlM (t.put place e).move p = .ok q := by
  induction steps generalizing p with
  | nil => exact h
  | cons s steps ih =>
    rw [List.foldlM_cons, bind_eq_ok_iff] at h ⊢
    obtain ⟨r, hr, hrest⟩ := h
    exact ⟨r, move_put hplace hfolder e hr, ih hrest⟩

/-! ### Files -/

theorem putFile_eq_ok_iff {path : Path} {content : ByteArray} :
    t.putFile path content = .ok t' ↔ ∃ steps, path.usableSteps = .ok steps ∧ ∃ place,
      t.walk steps = .ok place ∧ t.get? place ≠ some .folder ∧
        t' = t.put place (.file content) := by
  rw [putFile, bind_eq_ok_iff]
  refine exists_congr fun steps ↦ and_congr_right' ?_
  rw [bind_eq_ok_iff]
  refine exists_congr fun place ↦ and_congr_right' ?_
  cases hget : t.get? place with
  | none => simp [pure, Except.pure, eq_comm]
  | some e => cases e <;> simp [pure, Except.pure, eq_comm, throw, throwThe, MonadExceptOf.throw]

theorem entryAt_eq_ok_iff {path : Path} {e : Entry} :
    t.entryAt path = .ok e ↔ ∃ steps, path.usableSteps = .ok steps ∧ ∃ place,
      t.walk steps = .ok place ∧ t.get? place = some e := by
  rw [entryAt, bind_eq_ok_iff]
  refine exists_congr fun steps ↦ and_congr_right' ?_
  rw [bind_eq_ok_iff]
  refine exists_congr fun place ↦ and_congr_right' ?_
  cases t.get? place <;> simp

theorem entryAt_of_putFile {path : Path} {content : ByteArray}
    (h : t.putFile path content = .ok t') : t'.entryAt path = .ok (.file content) := by
  obtain ⟨steps, hsteps, place, hwalk, hfolder, rfl⟩ := putFile_eq_ok_iff.1 h
  have hplace : place ≠ [] := by
    rintro rfl
    exact hfolder rfl
  exact entryAt_eq_ok_iff.2 ⟨steps, hsteps, place, foldlM_move_put hplace hfolder _ hwalk,
    by rw [get?_put hplace, if_pos rfl]⟩

/-- A file with this content is in the folder at the path. -/
def Written (t : Tree) (folder : Path) (name : String) (content : ByteArray) : Prop :=
  (∃ steps, folder.usableSteps = .ok steps) ∧
    t.entryAt (folder.child name) = .ok (.file content)

variable {folder : Path} {name : String} {content : ByteArray}

theorem addFile_eq_ok_iff : t.addFile folder name content = (.ok (), t') ↔
    ∃ u, t.addFolder folder = (.ok (), u) ∧ u.putFile (folder.child name) content = .ok t' := by
  rw [addFile]
  obtain ⟨made, u⟩ := t.addFolder folder
  cases made with
  | error fault => simp
  | ok _ =>
    dsimp only
    cases hput : u.putFile (folder.child name) content with
    | error fault => simp [hput]
    | ok v => simp [hput]

/-- A file that was written stands there. -/
theorem written_of_addFile (h : t.addFile folder name content = (.ok (), t')) :
    t'.Written folder name content := by
  obtain ⟨u, hfolder, hput⟩ := addFile_eq_ok_iff.1 h
  refine ⟨?_, entryAt_of_putFile hput⟩
  rw [addFolder] at hfolder
  cases hsteps : folder.usableSteps with
  | error fault => rw [hsteps] at hfolder; cases hfolder
  | ok steps => exact ⟨steps, rfl⟩

theorem eq_steps_of_usableSteps {path : Path} {steps : List Step}
    (h : path.usableSteps = .ok steps) : steps = path.steps := by
  rw [Path.usableSteps] at h
  split at h
  · cases h
  · split at h
    · cases h
    · cases h
      rfl

/-- A file that stands there can be written again, with whatever content. -/
theorem Written.addFile (h : t.Written folder name content)
    (hname : Step.ofPart? name = some (.enter name)) (content' : ByteArray) :
    ∃ t', t.addFile folder name content' = (.ok (), t') := by
  obtain ⟨⟨steps, hsteps⟩, hentry⟩ := h
  obtain ⟨steps', hsteps', place, hwalk, hget⟩ := entryAt_eq_ok_iff.1 hentry
  have hput : t.putFile (folder.child name) content' = .ok (t.put place (.file content')) :=
    putFile_eq_ok_iff.2 ⟨steps', hsteps', place, hwalk, by rw [hget]; simp, rfl⟩
  -- the last step of the way to the file is one from its folder
  rw [eq_steps_of_usableSteps hsteps', Path.steps_child, hname, Option.toList_some,
    ← eq_steps_of_usableSteps hsteps, walk, List.foldlM_append, bind_eq_ok_iff] at hwalk
  obtain ⟨inner, hinner, hlast⟩ := hwalk
  rw [List.foldlM_cons, bind_eq_ok_iff] at hlast
  obtain ⟨_, hmove, -⟩ := hlast
  have hfolder : t.makeFolder steps = .ok t := by
    rw [makeFolder, walk, hinner]
    simp only [bind, Except.bind, get?_of_move hmove]
    rfl
  have hmade : t.addFolder folder = (.ok (), t) := by
    rw [addFolder, hsteps]
    show t.makeFolders steps = _
    rw [makeFolders, hfolder]
  exact ⟨_, addFile_eq_ok_iff.2 ⟨t, hmade, hput⟩⟩

end LiveFind.Settings.Tree
