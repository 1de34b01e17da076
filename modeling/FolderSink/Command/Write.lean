import FolderSink.Tree.Writer
import FolderSink.Config.Settings
/-! The write command: resolve the destination of a configuration name and write an output
tree into it. The settings file may give the name a fixed folder and exclusion patterns;
options on the command line win over it, and their exclusions come after the file's. -/
namespace FolderSink

/-- The options of one write. -/
structure WriteOptions where
  /-- The configuration name. -/
  name : String
  /-- An explicit destination folder. -/
  folderDir : Option String := none
  /-- Patterns of destination paths to keep, after those of the settings. -/
  exclude : List Utf16 := []
  /-- Whether to write through a staging folder; the settings decide when absent. -/
  atomic : Option Bool := none

/-- Write the tree at `outputTree` (relative to `cwd`) for `o.name` and give the folder
written to. `now` is the clock's reading for a generated folder and `stamps` name the
staging siblings. -/
def runWrite (outputTree : String) (o : WriteOptions) (cwd : String) (s : Settings)
    (now : Option Int) (stamps : Tree.Stamps) : Act String := do
  let entry := s.find? o.name
  let source := Path.resolve cwd [outputTree]
  match (← Act.disk).stat? source with
  | .error e => throw (.system e)
  | .ok (some .dir) => pure ()
  | .ok _ => throw (.config ("Output tree is not a directory: " ++ source))
  let options : FolderOptions :=
    ⟨o.folderDir <|> (entry.bind (·.folderDir)).map Utf16.toText, cwd, some s.defaultRoot.toText,
      o.atomic.getD s.atomicWrites, now⟩
  match options.destination (some o.name) none with
  | .error f => throw f
  | .ok (dest, lines) =>
    modify fun h => { h with console := h.console ++ lines }
    let excluded := (entry.map (·.exclude)).getD [] ++ o.exclude
    (Writer.ofDestination dest).run source excluded stamps
    pure dest.localFolder

end FolderSink
