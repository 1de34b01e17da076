import FolderSink.Tree.Staging
import FolderSink.Destination.Binding
/-! Writing one output tree into a destination folder. The folder and its parents are
created first; a file in the way is reported as a conflict naming the first path on the
way that is not a directory. In place, everything not excluded is deleted and then the
tree is copied in; a write that fails part way leaves the folder as it was at that point.
Staged, the new content is built beside the folder and swapped in, falling back to
writing in place when the swap cannot work. The writer's state ends in `done` after a
write and in `failed` after a failure. -/
namespace FolderSink

/-- Where a writer is in its work. -/
inductive WriterState where
  | idle | ensuringDirectory | cleaning | copying | done | failed
deriving DecidableEq, Repr

/-- The name of a state as it is reported. -/
def WriterState.text : WriterState → String
  | .idle => "Idle"
  | .ensuringDirectory => "EnsuringDirectory"
  | .cleaning => "Cleaning"
  | .copying => "Copying"
  | .done => "Done"
  | .failed => "Failed"

namespace Tree

/-- The first existing path on the way down to `target` that is not a directory. -/
def findNonDirectory (target : String) : Act (Option String) := do
  let segments := ((Path.relative "/" "/" target).splitOn "/").filter (· != "")
  let rec go : String → List String → Act (Option String)
    | _, [] => pure none
    | current, s :: rest => do
      let current := Path.join [current, s]
      match ← Act.ask .read current (·.stat? current) with
      | none => pure none
      | some .dir => go current rest
      | some _ => pure (some current)
  go "/" segments

/-- Create the destination folder and its parents; a file in the way is a conflict rather
than a plain I/O failure. -/
def ensureDestinationDirectory (localFolder : String) : Act Unit := do
  match (← Act.disk).mkdirs localFolder with
  | .ok d => modify fun h => { h with disk := d }
  | .error e =>
    if e.errno == .EEXIST || e.errno == .ENOTDIR then
      if let some offending ← findNonDirectory localFolder then
        throw (.conflict localFolder offending)
    throw (Act.ioFailure .mkdir localFolder e)

end Tree

/-- A writer for one destination folder. -/
structure Writer where
  localFolder : String
  atomic : Bool
  state : WriterState := .idle

namespace Writer

/-- The writer of a destination. -/
def ofDestination (d : Destination) : Writer := ⟨d.localFolder, d.atomic, .idle⟩

/-- Write `outputTree` into the folder, keeping the paths that `excluded` selects;
`stamps` name the staging siblings. -/
def run (w : Writer) (outputTree : String) (excluded : List Utf16) (stamps : Tree.Stamps) :
    Act Unit := do
  let folder := w.localFolder
  Act.say .progress ("FolderDestination: creating " ++ folder)
  Tree.ensureDestinationDirectory folder
  let preserve : PathMatcher := ⟨Host.workDir, folder, excluded⟩
  let staged ← if w.atomic then do
      Act.say .progress ("FolderDestination: staging contents of the workdir for " ++ folder)
      let outcome ← Tree.stagedWrite folder outputTree preserve stamps
      if outcome == .unsupported then
        Act.say .warn ("FolderDestination: cannot swap a staged copy into " ++ folder ++ "; writing in place")
      pure (outcome == .swapped)
    else pure false
  if !staged then
    Act.say .progress ("FolderDestination: deleting previous data from " ++ folder)
    let _ ← Tree.deleteRecursively folder preserve
    Act.say .progress ("FolderDestination: Copying contents of the workdir to " ++ folder)
    let _ ← Tree.copyRecursively outputTree folder

/-- Write, and the writer's state afterwards: `done`, or `failed` with the failure. -/
def write (w : Writer) (outputTree : String) (excluded : List Utf16) (stamps : Tree.Stamps) :
    StateM Host (Writer × Except Failure Unit) := do
  let r ← (w.run outputTree excluded stamps).run
  pure ({ w with state := if r matches .ok _ then .done else .failed }, r)

end Writer

end FolderSink
