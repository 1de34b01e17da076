/-! POSIX path arithmetic on strings: splitting into names, normalising `.` and `..`,
resolving against a working directory, joining, the path from one directory to another,
and the parent and last name of a path. A path is absolute when it starts with `/`.
Normalisation keeps a stack of names: an empty name and `.` are dropped and `..` removes
the name below it; at the top of an absolute path `..` is dropped, at the top of a
relative one it is kept. -/
namespace FolderSink

namespace Path

/-- Whether a path starts at the root. -/
def isAbsolute (p : String) : Bool := p.startsWith "/"

/-- The names between the slashes, empty ones included. -/
def names (p : String) : List String := p.splitOn "/"

/-- One step of normalisation on a stack of names (top first). -/
def push (aboveRoot : Bool) (st : List String) (n : String) : List String :=
  if n = "" ∨ n = "." then st
  else if n = ".." then
    match st with
    | top :: rest => if top = ".." then (if aboveRoot then ".." :: st else st) else rest
    | [] => if aboveRoot then [".."] else []
  else n :: st

/-- The normal names of a list of names; `aboveRoot` keeps a leading `..`. -/
def normalNames (aboveRoot : Bool) (ns : List String) : List String :=
  (ns.foldl (push aboveRoot) []).reverse

/-- Names joined by slashes. -/
def joinNames (ns : List String) : String := "/".intercalate ns

/-- The normal form of a path: `.` for an empty relative path, `/` for the root, and a
trailing slash kept. -/
def normalize (p : String) : String :=
  if p = "" then "."
  else
    let abs := isAbsolute p
    let body := joinNames (normalNames (!abs) (names p))
    let body := if body = "" ∧ !abs then "." else body
    let body := if p.endsWith "/" ∧ body ≠ "" then body ++ "/" else body
    if abs then "/" ++ body else body

/-- The paths that a resolution reads: from the last absolute one on (`cwd` in front when
none is absolute), empty paths skipped. -/
def resolvedTail (cwd : String) (ps : List String) : List String :=
  let ps := (cwd :: ps).filter (· ≠ "")
  let rec lastAbsolute : List String → List String → List String
    | [], acc => acc
    | p :: rest, acc => lastAbsolute rest (if isAbsolute p then [p] else acc ++ [p])
  lastAbsolute ps []

/-- The absolute normal path that a sequence of paths resolves to, against `cwd` (which
is absolute). -/
def resolve (cwd : String) (ps : List String) : String :=
  let tail := resolvedTail cwd ps
  let abs := tail.head?.any isAbsolute
  let body := joinNames (normalNames (!abs) (tail.flatMap names))
  if abs then "/" ++ body else if body = "" then "." else body

/-- Paths joined by slashes and normalised; `.` when all are empty. -/
def join (ps : List String) : String :=
  let ps := ps.filter (· ≠ "")
  if ps.isEmpty then "." else normalize (joinNames ps)

/-- The relative path from one path to another, both resolved against `cwd`: `..` for
every name of `src` past their common names, then the rest of `dst`; empty when they
resolve to the same path. -/
def relative (cwd src dst : String) : String :=
  let a := normalNames false (names (resolve cwd [src]))
  let b := normalNames false (names (resolve cwd [dst]))
  let rec common : List String → List String → List String × List String
    | x :: xs, y :: ys => if x = y then common xs ys else (x :: xs, y :: ys)
    | xs, ys => (xs, ys)
  let (up, down) := common a b
  joinNames (up.map (fun _ => "..") ++ down)

/-- The parent of a path: everything before its last name, trailing slashes ignored;
`/` for a name right under the root and `.` for a single relative name. -/
def dirname (p : String) : String :=
  let cs := p.toList
  match cs with
  | [] => "."
  | c :: rest =>
    let hasRoot := c = '/'
    -- positions from the end, the first character excluded
    let rev := rest.reverse
    let trimmed := rev.dropWhile (· = '/')
    let afterName := trimmed.dropWhile (· ≠ '/')
    match afterName with
    | [] => if hasRoot then "/" else "."
    | _ :: before =>
      if hasRoot ∧ before.isEmpty then "//"
      else String.ofList (c :: before.reverse)

/-- The last name of a path, trailing slashes ignored. -/
def basename (p : String) : String :=
  let rev := p.toList.reverse.dropWhile (· = '/')
  String.ofList (rev.takeWhile (· ≠ '/')).reverse

end Path

end FolderSink
