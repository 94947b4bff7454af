/-!
# Paths

How folders and files are named. A path is a text with slashes; each part between two of them is a
step: into what has this name, up to the folder around, or to where one is. Steps are kept as they
are written, since a step up leads out of a folder that has to be there.
-/

namespace LiveFind

namespace Settings

/-- A step from a folder. -/
inductive Step
  | stay
  /-- To the folder around this one. -/
  | up
  /-- To what has this name in the folder. -/
  | enter (name : String)
deriving Repr, DecidableEq

/-- The step that a part of a path stands for. An empty part stands for none. -/
def Step.ofPart? (part : String) : Option Step :=
  match part with
  | "" => none
  | "." => some .stay
  | ".." => some .up
  | name => some (.enter name)

/-- A path that starts at the top folder: its parts, as they are written. -/
structure Path where
  parts : List String
deriving Repr, DecidableEq

namespace Path

/-- The path that a text stands for. -/
def ofText (s : String) : Path :=
  ⟨s.splitOn "/"⟩

/-- The text of a path behind the text of the top folder. -/
def toText (top : String) (p : Path) : String :=
  "/".intercalate (top :: p.parts)

/-- The path to what has this name in the folder at the path. -/
def child (p : Path) (name : String) : Path :=
  ⟨(if p.parts.getLast? = some "" then p.parts.dropLast else p.parts) ++ [name]⟩

/-- The steps of a path. -/
def steps (p : Path) : List Step :=
  p.parts.filterMap Step.ofPart?

/-- The steps to a name in a folder are those to the folder, and the one to the name. -/
theorem steps_child (p : Path) (name : String) :
    (p.child name).steps = p.steps ++ (Step.ofPart? name).toList := by
  obtain ⟨parts⟩ := p
  have h : [name].filterMap Step.ofPart? = (Step.ofPart? name).toList := by
    cases hs : Step.ofPart? name <;> simp [hs]
  unfold child steps
  split
  · next hl =>
    obtain ⟨front, rfl⟩ := List.getLast?_eq_some_iff.1 hl
    simp [h, Step.ofPart?]
  · simp [h]

/-- How many bytes the path of the top folder is taken to have. -/
def topSize : Nat := 15

/-- How many bytes a path has, those of the top folder's among them. -/
def size (p : Path) : Nat :=
  p.parts.foldl (fun n part ↦ n + 1 + part.utf8ByteSize) topSize

end Path

end Settings

end LiveFind
