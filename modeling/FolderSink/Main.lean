import FolderSink.Format.Check
import FolderSink.Config.Loader
import FolderSink.Yaml.Read
/-! The command line: `format <template> [args...]` type-checks and renders a template,
reading each argument as a YAML value; `init [--config <dir>] [--name <name>]` creates the
settings file (in `~/.folder-destination` by default); `--version` prints the version.
Failures print `Error: <message>` and exit with status 1. -/
namespace FolderSink

namespace Cli

/-- A parsed command line. -/
inductive Command where
  | format (template : String) (args : List String)
  | init (config name : Option String)
  | write (outputTree : String)
  | version
  | usage
  | refused (message : String)

/-- The value of an option given as `--opt value` or `--opt=value`. -/
def optionValue (name : String) : List String → Option String
  | a :: b :: rest => if a == name then some b
      else if a.startsWith (name ++ "=") then some (a.drop (name.length + 1)).toString
      else optionValue name (b :: rest)
  | [a] => if a.startsWith (name ++ "=") then some (a.drop (name.length + 1)).toString else none
  | [] => none

/-- Read the command line. -/
def parse : List String → Command
  | [] => .usage
  | ["--version"] | ["-V"] => .version
  | ["--help"] | ["-h"] => .usage
  | "format" :: rest =>
    match rest with
    | t :: args => .format t args
    | [] => .refused "error: missing required argument 'template'"
  | "init" :: rest => .init (optionValue "--config" rest) (optionValue "--name" rest)
  | "write" :: rest =>
    match rest.filter (!·.startsWith "-") with
    | t :: _ => .write t
    | [] => .refused "error: missing required argument 'outputTree'"
  | c :: _ => .refused ("error: unknown command '" ++ c ++ "'")

/-- Read each argument as a YAML value. -/
def formatArgs : List String → Except String (List Value)
  | [] => .ok []
  | a :: rest => do
    let v ← Yaml.parse a
    let vs ← formatArgs rest
    .ok (v :: vs)

/-- The output of `format`, or the message of its failure. -/
def runFormat (template : String) (args : List String) : Except String String := do
  let vals ← formatArgs args
  let t := Utf16.ofString template
  match Template.format t vals with
  | .ok s => .ok (s.toText)
  | .error e => .error ((e.message t).toText)

/-- The usage text. -/
def usageText : String :=
  "Usage: folder-destination [options] [command]\n\n" ++
  "Write generated output trees into local folders\n\n" ++
  "Commands:\n" ++
  "  init [options]                   Create a .folder-destination.yml configuration file in ~/.folder-destination\n" ++
  "  write [options] <outputTree>     Replace the contents of a destination folder with an output tree\n" ++
  "  format <template> [args...]      Type-check and render a printf-style template"

end Cli

end FolderSink

open FolderSink in
/-- Whether something exists at a path. -/
def pathPresent (p : String) : IO Bool := do
  try
    let _ ← IO.FS.Handle.mk p .read
    pure true
  catch _ => pure false

open FolderSink in
def main (args : List String) : IO UInt32 := do
  match Cli.parse args with
  | .version => IO.println "0.1.0"; pure 0
  | .usage => IO.eprintln Cli.usageText; pure 1
  | .refused m => IO.eprintln m; pure 1
  | .format t as =>
    match Cli.runFormat t as with
    | .ok s => IO.println s; pure 0
    | .error m => IO.eprintln ("Error: " ++ m); pure 1
  | .init config name =>
    let home := (← IO.getEnv "HOME").getD ""
    let dir := config.getD (Path.join [home, ".folder-destination"])
    let path := Settings.pathIn dir
    if ← pathPresent path then
      IO.eprintln ("Error: Config file already exists: " ++ path)
      return 1
    try
      IO.FS.createDirAll dir
      IO.FS.writeFile path (Settings.template (name.map Utf16.ofString))
    catch e =>
      IO.eprintln ("Error: " ++ toString e)
      return 1
    IO.println ("Created configuration file: " ++ path)
    match name with
    | none => IO.println "Add a destination entry per configuration, then run 'folder-destination write'."
    | some n => IO.println ("Next: folder-destination write <outputTree> --name " ++ n)
    pure 0
  | .write _ =>
    IO.eprintln "Error: writing needs the contents of directories, which this build cannot list"
    pure 1
