import LiveFind.Settings.Path

/-!
# Trees of files

A tree is given by what stands at each place. Paths are walked step by step, and every step is one
from a folder; so a path says more than its end, and two paths to one place can differ in what they
need. Where something goes wrong on the way, what was done before stays done.
-/

namespace LiveFind

namespace Settings

/-- What stands at a place. -/
inductive Entry
  | folder
  | file (content : ByteArray)

/-- A place: the names that lead there from the outermost folder, the last one first. -/
abbrev Place := List String

/-- The top folder, where paths start. No step enters its name, which is empty. -/
def Place.top : Place := [""]

/-- A tree of files: the entries in the outermost folder and below. -/
structure Tree where
  entries : List (Place × Entry) := [(.top, .folder)]

/-- Why files cannot be used as asked. -/
inductive FileFault
  /-- Nothing stands where something is needed. -/
  | missing
  /-- A folder stands where a file is asked for. -/
  | isFolder
  /-- A file stands where a folder is asked for. -/
  | isFile
  /-- A file stands on the way. -/
  | notFolder
  /-- A name or a whole path has too many bytes. -/
  | nameTooLong
  /-- A name holds the character NUL. -/
  | nulInName
  /-- The file does not hold text. -/
  | notText
deriving Repr, DecidableEq

/-- The wording of a fault with files. -/
def FileFault.message : FileFault → String
  | missing => "No such file or directory (os error 2)"
  | isFolder => "Is a directory (os error 21)"
  | isFile => "File exists (os error 17)"
  | notFolder => "Not a directory (os error 20)"
  | nameTooLong => "File name too long (os error 36)"
  | nulInName => "file name contained an unexpected NUL byte"
  | notText => "stream did not contain valid UTF-8"

/-- The text that an entry holds. -/
def Entry.text : Entry → Except FileFault String
  | folder => .error .isFolder
  | file content => (String.fromUTF8? content).elim (.error .notText) .ok

/-- How many bytes a name may have. -/
def nameLimit : Nat := 255

/-- How many bytes a path may have. -/
def pathLimit : Nat := 4095

/-- The steps of a path that can be used at all. -/
def Path.usableSteps (p : Path) : Except FileFault (List Step) :=
  if p.parts.any (·.contains '\x00') then .error .nulInName
  else if pathLimit < p.size then .error .nameTooLong
  else .ok p.steps

namespace Tree

/-- What stands at a place, if anything does. -/
def get? (t : Tree) : Place → Option Entry
  | [] => some .folder
  | place => t.entries.lookup place

/-- The tree with this entry at the place. -/
def put (t : Tree) (place : Place) (e : Entry) : Tree :=
  { entries := (place, e) :: t.entries }

/-- What stands at a place below the outermost folder is what was put there last. -/
theorem get?_put {place : Place} (h : place ≠ []) (t : Tree) (e : Entry) (q : Place) :
    (t.put place e).get? q = if q = place then some e else t.get? q := by
  match q with
  | [] => simp [get?, Ne.symm h]
  | name :: rest =>
    simp only [get?, put, List.lookup_cons]
    split <;> simp_all

/-- The place to which a step leads from a folder. -/
def move (t : Tree) (place : Place) (s : Step) : Except FileFault Place :=
  match t.get? place with
  | none => .error .missing
  | some (.file _) => .error .notFolder
  | some .folder =>
    match s with
    | .stay => .ok place
    | .up => .ok place.tail
    | .enter name =>
      if nameLimit < name.utf8ByteSize then .error .nameTooLong else .ok (name :: place)

/-- The place to which the steps lead, whatever stands there. -/
def walk (t : Tree) (steps : List Step) : Except FileFault Place :=
  steps.foldlM t.move .top

/-- What stands where the path leads. -/
def entryAt (t : Tree) (p : Path) : Except FileFault Entry := do
  let place ← t.walk (← p.usableSteps)
  (t.get? place).elim (.error .missing) .ok

/-- Make the folder to which the steps lead, unless it is there. -/
def makeFolder (t : Tree) (steps : List Step) : Except FileFault Tree := do
  let place ← t.walk steps
  match t.get? place with
  | none => return t.put place .folder
  | some .folder => return t
  | some (.file _) => throw .isFile

/-- Go along the steps from a folder and make the folders that are missing. Steps that stay at the
end make nothing; they ask for the folder that they stay in. -/
def makeAlong (t : Tree) (place : Place) : List Step → Except FileFault Unit × Tree
  | [] => (.ok (), t)
  | .stay :: rest => t.makeAlong place rest
  | .up :: rest => t.makeAlong place.tail rest
  | .enter name :: rest =>
    match t.move place (.enter name) with
    | .error fault => (.error fault, t)
    | .ok inner =>
      if !rest.isEmpty && rest.all (· == .stay) then ((t.move inner .stay).map fun _ ↦ (), t)
      else
        match t.get? inner with
        | none => (t.put inner .folder).makeAlong inner rest
        | some .folder => t.makeAlong inner rest
        | some (.file _) => (.error .isFile, t)

/-- Make the folder to which the steps lead. Only if something is missing on the way are more
folders made. -/
def makeFolders (t : Tree) (steps : List Step) : Except FileFault Unit × Tree :=
  match t.makeFolder steps with
  | .ok t => (.ok (), t)
  | .error .missing => t.makeAlong .top steps
  | .error fault => (.error fault, t)

/-- Make the folder at a path, and those on the way. -/
def addFolder (t : Tree) (p : Path) : Except FileFault Unit × Tree :=
  match p.usableSteps with
  | .error fault => (.error fault, t)
  | .ok steps => t.makeFolders steps

/-- Write a file at a path. -/
def putFile (t : Tree) (p : Path) (content : ByteArray) : Except FileFault Tree := do
  let place ← t.walk (← p.usableSteps)
  match t.get? place with
  | some .folder => throw .isFolder
  | _ => return t.put place (.file content)

/-- Write a file into the folder at a path, which is made if it is missing. -/
def addFile (t : Tree) (folder : Path) (name : String) (content : ByteArray) :
    Except FileFault Unit × Tree :=
  match t.addFolder folder with
  | (.error fault, t) => (.error fault, t)
  | (.ok (), t) =>
    match t.putFile (folder.child name) content with
    | .error fault => (.error fault, t)
    | .ok t => (.ok (), t)

end Tree

end Settings

end LiveFind
