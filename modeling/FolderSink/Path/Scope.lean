import FolderSink.Path.Posix
import FolderSink.Glob.Match
/-! Paths inside a root directory and the patterns that pick some of them. A path is
tested by its place relative to the root, with `/` between names; a path that is not
below the root (its relative path climbs out with `..` or stays absolute) is refused
before any pattern is read. Names that start with a dot are ordinary names here. -/
namespace FolderSink

/-- Why a path cannot be tested against patterns. -/
inductive ScopeError where
  /-- The path is not below the root. -/
  | outside (candidate root : String)
  /-- A pattern is refused. -/
  | pattern (e : Glob.GlobError)

namespace ScopeError

/-- The class of the error as the engine names it. -/
def errorClass : ScopeError → String
  | .outside .. => "Error"
  | .pattern e => e.errorClass

/-- The message of the error. -/
def message : ScopeError → Utf16
  | .outside candidate root =>
    Utf16.ofString ("Path '" ++ candidate ++ "' is not under '" ++ root ++ "'")
  | .pattern e => e.message

end ScopeError

namespace Path

/-- The place of `candidate` relative to `root`, both read from the working directory `cwd`;
the root itself is the empty path. -/
def underRoot (cwd root candidate : String) : Except ScopeError String :=
  let rel := relative cwd root candidate
  if rel == ".." || rel.startsWith "../" || isAbsolute rel then .error (.outside candidate root)
  else .ok rel

/-- Whether a relative path matches one of the patterns, tried in order; the first match
ends the search, so a later pattern that would be refused is never read. -/
def anyPattern (rel : Utf16) : List Utf16 → Except ScopeError Bool
  | [] => .ok false
  | p :: ps => do
    let hit ← (Glob.globMatch rel p).mapError ScopeError.pattern
    if hit then .ok true else anyPattern rel ps

/-- Whether `candidate`, taken relative to `root` in the working directory `cwd`, matches one
of the patterns. -/
def matchesAny (cwd root candidate : String) (patterns : List Utf16) :
    Except ScopeError Bool := do
  let rel ← underRoot cwd root candidate
  anyPattern (Utf16.ofString rel) patterns

end Path

/-- A test on paths: whether a path, taken relative to `root` in the working directory `cwd`,
matches one of `patterns`. -/
structure PathMatcher where
  cwd : String
  root : String
  patterns : List Utf16

/-- Run a path matcher on a path. -/
def PathMatcher.test (m : PathMatcher) (candidate : String) : Except ScopeError Bool :=
  Path.matchesAny m.cwd m.root candidate m.patterns

/-- Run a path matcher and give the opposite answer; a path it refuses stays refused. -/
def PathMatcher.testNot (m : PathMatcher) (candidate : String) : Except ScopeError Bool :=
  (m.test candidate).map (!·)

end FolderSink
