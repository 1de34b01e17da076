import FolderSink.Destination.Place
import FolderSink.Report.Failure
/-! The destination a configuration binds to: the folder its output goes to and whether
writes go through a staged copy. Folders keep no history, so there is never a previous
reference, and labels are not supported. -/
namespace FolderSink

/-- The name the destination reports itself by. -/
def destinationName : String := "!FolderDestination"

/-- Options that every destination of a run shares. -/
structure FolderOptions where
  /-- An explicit folder (empty counts as absent). -/
  folderDir : Option String
  /-- The absolute working directory. -/
  cwd : String
  /-- The root for generated folders. -/
  defaultRoot : Option String
  /-- Whether writes build the tree beside the folder and swap it in. -/
  atomic : Bool
  /-- The current moment, if the clock gives a valid one. -/
  now : Option Int

/-- A folder destination. -/
structure Destination where
  localFolder : String
  atomic : Bool
deriving DecidableEq, Repr

namespace Destination

/-- The reference of an earlier write under a label: folders keep none. -/
def previousRef (_d : Destination) (_label : String) : Option String := none

/-- The label name of the destination as an origin: not supported. -/
def labelWhenOrigin (_d : Destination) : Except Failure String :=
  .error (.unsupported (destinationName ++ " does not support labels"))

end Destination

/-- The destination for a configuration name, falling back to the project's name; without
either it is refused. Reports the generated folder it picks. -/
def FolderOptions.destination (o : FolderOptions) (projectName configName : Option String) :
    Except Failure (Destination × Console) :=
  match configName <|> projectName with
  | none => .error (.config "folder.destination() needs a project name")
  | some name =>
    let (folder, console) :=
      PlaceRequest.resolve ⟨o.folderDir, name, o.cwd, o.defaultRoot, o.now⟩
    .ok (⟨folder, o.atomic⟩, console)

end FolderSink
