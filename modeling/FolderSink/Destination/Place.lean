import FolderSink.Destination.Clock
import FolderSink.Path.Posix
import FolderSink.Report.Console
/-! Where a destination puts its output. An explicit folder is used as given, relative ones
against the working directory. Otherwise the folder is
`<defaultRoot>/<sanitized config name>/<stamp>`, so runs of one configuration within the
same second share a folder; a name with no ASCII letter or digit leaves out its level. -/
namespace FolderSink

/-- The root for generated folders, relative to the working directory, when none is given. -/
def defaultRootRelative : String := "copybara/out"

/-- Whether a character is an ASCII letter or digit. -/
def isAsciiAlnum (c : Char) : Bool :=
  ('A' ≤ c ∧ c ≤ 'Z') || ('a' ≤ c ∧ c ≤ 'z') || ('0' ≤ c ∧ c ≤ '9')

/-- A configuration name with every character other than an ASCII letter or digit
removed. -/
def sanitizeName (s : String) : String := String.ofList (s.toList.filter isAsciiAlnum)

/-- What decides a destination's folder. -/
structure PlaceRequest where
  /-- An explicit folder; empty counts as absent. -/
  folderDir : Option String
  /-- The configuration's name. -/
  configName : String
  /-- The absolute working directory. -/
  cwd : String
  /-- The root for generated folders. -/
  defaultRoot : Option String
  /-- The current moment, if the clock gives a valid one. -/
  now : Option Int

/-- The generated folder of a request under its default root, and the message reported
about it. -/
def PlaceRequest.generated (r : PlaceRequest) : String × Console :=
  let root := Path.resolve r.cwd [r.defaultRoot.getD defaultRootRelative]
  let folder := Path.join [root, sanitizeName r.configName, folderStamp r.now]
  (folder, Console.say [] .info
    ("Using folder '" ++ folder ++ "' in default root. Use --folder-dir to override."))

/-- The absolute folder of a request, and what is reported about it. -/
def PlaceRequest.resolve (r : PlaceRequest) : String × Console :=
  match r.folderDir with
  | some dir => if dir ≠ "" then (Path.resolve r.cwd [dir], []) else r.generated
  | none => r.generated

end FolderSink
