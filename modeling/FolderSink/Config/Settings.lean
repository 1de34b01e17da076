import FolderSink.Value.Basic
import FolderSink.Text.Blank
import FolderSink.Report.Failure
/-! The settings file: a root for generated folders, whether writes are staged, log
rotation limits, an optional log directory, and per-configuration destination entries.
Validation reads a loaded value key by key in a fixed order and stops at the first
problem; a key that is missing or null takes its default. Names of destinations are kept
trimmed and must be distinct; folders and patterns are kept as written. -/
namespace FolderSink

/-- The settings of one configuration. -/
structure DestinationEntry where
  /-- The configuration's name, trimmed. -/
  name : Utf16
  /-- A fixed output folder. -/
  folderDir : Option Utf16
  /-- Patterns, relative to the destination, of paths kept across writes. -/
  exclude : List Utf16
deriving DecidableEq, Repr

/-- The whole settings file. -/
structure Settings where
  defaultRoot : Utf16
  atomicWrites : Bool
  maxLogSizeMB : Double
  maxLogFiles : Double
  logDir : Option Utf16
  destinations : List DestinationEntry

namespace Settings

/-- The name of the settings file in its directory. -/
def fileName : String := ".folder-destination.yml"

/-- The value of a key, absent when it is missing or null. -/
def field (es : List (String × Value)) (k : String) : Option Value :=
  match Value.Dict.get? es k with
  | some .none => none
  | v => v

/-- A string with something besides blanks. -/
def filledText? : Value → Option Utf16
  | .str s => if trimBlankUnits s = [] then none else some s
  | _ => none

/-- A key that must be a non-empty string when present. -/
def textField (es : List (String × Value)) (k : String) (problem : String) :
    Except Failure (Option Utf16) :=
  match field es k with
  | none => .ok none
  | some v =>
    match filledText? v with
    | some s => .ok (some s)
    | none => .error (.config problem)

/-- The exclusion patterns of entry `i`. -/
def patterns (i : String) : List Value → Except Failure (List Utf16)
  | [] => .ok []
  | v :: vs => do
    match filledText? v with
    | some s => .ok (s :: (← patterns i vs))
    | none => .error (.config ("destinations[" ++ i ++ "].exclude entries must be non-empty strings"))

/-- Validate destination entry `index`. -/
def entry (index : Nat) (v : Value) : Except Failure DestinationEntry := do
  let i := toString index
  match v with
  | .dict es =>
    let name ← match (field es "name").bind filledText? with
      | some s => pure (trimBlankUnits s)
      | none => .error (.config ("destinations[" ++ i ++ "].name must be a non-empty string"))
    let folderDir ← textField es "folderDir" ("destinations[" ++ i ++ "].folderDir must be a non-empty string")
    let exclude ← match field es "exclude" with
      | none => pure []
      | some (.list xs) => patterns i xs
      | some _ => .error (.config ("destinations[" ++ i ++ "].exclude must be an array"))
    pure ⟨name, folderDir, exclude⟩
  | _ => .error (.config ("destinations[" ++ i ++ "] must be an object"))

/-- Validate the entries in order. -/
def entries (start : Nat) : List Value → Except Failure (List DestinationEntry)
  | [] => .ok []
  | v :: vs => do
    let e ← entry start v
    let es ← entries (start + 1) vs
    .ok (e :: es)

/-- The first name that occurs twice, found in order. -/
def firstDuplicate : List Utf16 → List Utf16 → Option Utf16
  | _, [] => none
  | seen, n :: rest => if seen.contains n then some n else firstDuplicate (seen ++ [n]) rest

/-- Validate a loaded value (see the module note); null stands for an empty file. -/
def validate (v : Value) : Except Failure Settings := do
  let es ← match v with
    | .none => pure []
    | .dict es => pure es
    | _ => .error (.config "Configuration must be a YAML object")
  let defaultRoot ← textField es "defaultRoot" "defaultRoot must be a non-empty string"
  let atomicWrites ← match field es "atomicWrites" with
    | none => pure false
    | some (.bool b) => pure b
    | some _ => .error (.config "atomicWrites must be true or false")
  let maxLogSizeMB ← match field es "maxLogSizeMB" with
    | none => pure (Double.ofNat 10)
    | some (.num x) => if x.le (Double.zero false) then .error (.config "maxLogSizeMB must be a positive number") else pure x
    | some _ => .error (.config "maxLogSizeMB must be a positive number")
  let maxLogFiles ← match field es "maxLogFiles" with
    | none => pure (Double.ofNat 5)
    | some (.num x) =>
      if x.le (Double.zero false) || !x.isInteger then .error (.config "maxLogFiles must be a positive integer")
      else pure x
    | some _ => .error (.config "maxLogFiles must be a positive integer")
  let destinations ← match field es "destinations" with
    | none => pure []
    | some (.list xs) => entries 0 xs
    | some _ => .error (.config "destinations must be an array")
  match firstDuplicate [] (destinations.map (·.name)) with
  | some n => .error (.config ("Duplicate destination name: " ++ n.toText))
  | none => pure ()
  let logDir ← textField es "logDir" "logDir must be a non-empty string"
  pure ⟨defaultRoot.getD (Utf16.ofString "copybara/out"), atomicWrites, maxLogSizeMB, maxLogFiles, logDir, destinations⟩

/-- The settings of an empty file. -/
def defaults : Settings := ⟨Utf16.ofString "copybara/out", false, Double.ofNat 10, Double.ofNat 5, none, []⟩

/-- The entry of a configuration name, compared exactly. -/
def find? (s : Settings) (name : String) : Option DestinationEntry :=
  s.destinations.find? (·.name == Utf16.ofString name)

end Settings

/-- An entry as a value. -/
def DestinationEntry.toValue (e : DestinationEntry) : Value :=
  .dict ([("name", .str e.name), ("exclude", .list (e.exclude.map .str))] ++
    (e.folderDir.map fun d => ("folderDir", Value.str d)).toList)

/-- Settings as a value. -/
def Settings.toValue (s : Settings) : Value :=
  .dict ([("defaultRoot", .str s.defaultRoot), ("atomicWrites", .bool s.atomicWrites),
    ("maxLogSizeMB", .num s.maxLogSizeMB), ("maxLogFiles", .num s.maxLogFiles),
    ("destinations", .list (s.destinations.map DestinationEntry.toValue))] ++
    (s.logDir.map fun d => ("logDir", Value.str d)).toList)

end FolderSink
