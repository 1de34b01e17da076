import FolderSink.Config.Settings
import FolderSink.Yaml.Read
import FolderSink.Yaml.Emit
import FolderSink.Disk.Calls
/-! Reading and creating the settings file `.folder-destination.yml` in a directory. A
missing file is an error for `load` and the defaults for `loadOrDefaults`; a file that
does not parse is reported with the parser's message. A new file holds the defaults with
comments, and optionally one destination entry whose name is written as YAML. -/
namespace FolderSink

namespace Settings

/-- The settings file of a directory. -/
def pathIn (dir : String) : String := Path.join [dir, fileName]

/-- Load and validate the settings file of a directory. -/
def load (d : Disk) (dir : String) : Except Failure Settings := do
  let path := pathIn dir
  if !d.exists? path then throw (.config ("Config file not found: " ++ path))
  let text ← (d.fileText path).mapError Failure.system
  match Yaml.parse text with
  | .error m => throw (.config ("Cannot parse " ++ path ++ ": " ++ m))
  | .ok v => validate v

/-- Like `load`, but a missing file gives the defaults. -/
def loadOrDefaults (d : Disk) (dir : String) : Except Failure Settings :=
  if !d.exists? (pathIn dir) then validate .none else load d dir

/-- The text of a new settings file, with an entry for `name` when given. The name is a
text of UTF-16 units, since a name with a lone surrogate is written with an escape. -/
def template (name : Option Utf16) : String :=
  let entry := match name with
    | none => []
    | some n => ["  - name: " ++ trimBlank (Yaml.stringify n), "    exclude: []"]
  "\n".intercalate ([
    "# folder-destination configuration",
    "",
    "# Root for generated output folders, relative to the working directory.",
    "# Folders are created as <defaultRoot>/<config name>/<YYYY_MM_DD_HH_MM_SS>.",
    "defaultRoot: copybara/out",
    "",
    "# Build each write in a staging folder and swap it in with a rename",
    "atomicWrites: false",
    "",
    "# Log rotation settings (optional)",
    "# maxLogSizeMB: 10    # Max log file size in MB before rotation (default: 10)",
    "# maxLogFiles: 5      # Max number of rotated log files to keep (default: 5)",
    "# logDir: /var/log/folder-destination",
    "",
    "# Per-configuration settings, matched by name (write --name <name>)",
    "destinations:"] ++ entry ++ [
    "# - name: my-project",
    "#   folderDir: /tmp/my-project-out   # omit to generate one under defaultRoot",
    "#   exclude:                         # paths kept across writes",
    "#     - \"README.local.md\"",
    "#     - \"notes/**\""]) ++ "\n"

/-- Create the settings file of a directory (and the directory); an existing file is
refused. Gives the file's path. -/
def writeDefault (d : Disk) (dir : String) (name : Option Utf16) : Except Failure (String × Disk) := do
  let path := pathIn dir
  if d.exists? path then throw (.config ("Config file already exists: " ++ path))
  let d ← (d.mkdirs dir).mapError Failure.system
  let d ← (d.putFile path (template name) false).mapError Failure.system
  pure (path, d)

end Settings

end FolderSink
