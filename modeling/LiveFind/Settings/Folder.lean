import LiveFind.Note
import LiveFind.Settings
import LiveFind.Settings.Tree

/-!
# Folders with settings

Settings are kept in a file of a folder. Saving makes the folders on the way; loading takes the
defaults where there is no file.
-/

namespace LiveFind

namespace Settings

/-- Why settings cannot be loaded or saved. -/
inductive Fault
  | file (fault : FileFault)
  | parse (fault : Json.Fault)
deriving Repr, DecidableEq

/-- The wording of a fault with settings. -/
def Fault.message : Fault → String
  | file fault => "IO error: " ++ fault.message
  | parse fault => "Failed to parse config: " ++ fault.message

/-- The name of the file with settings. -/
def fileName : String := "search.json"

/-- The path of the file with settings in a folder. -/
def filePath (folder : Path) : Path :=
  folder.child fileName

/-- Save settings in a folder. -/
def save (s : Settings) (t : Tree) (folder : Path) : Except Fault Unit × Tree :=
  let (r, t) := t.addFile folder fileName s.toText.toUTF8
  (r.mapError .file, t)

/-- What is put on record when settings are saved in a folder. -/
def savedNote (top : String) (folder : Path) : Note :=
  .settingsSaved ((filePath folder).toText top)

/-- Load the settings of a folder. A file that no path reaches is not there. -/
def load (t : Tree) (folder : Path) : Except Fault Settings :=
  match t.entryAt (filePath folder) with
  | .error _ => .ok {}
  | .ok e => do (Settings.ofText (← e.text.mapError .file)).mapError .parse

end Settings

end LiveFind
