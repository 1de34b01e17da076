import FolderSink.Glob.Part
import FolderSink.Glob.Brace
/-! Whole glob patterns on slash-separated paths. A pattern is read once: a leading `#`
makes it a comment that matches nothing, the empty pattern matches only the empty path,
leading `!` marks toggle negation, braces expand into alternatives, and each alternative
is split at runs of slashes into segments (a `..` cancels the segment before it unless
that one is `..`, `.` or `**`; repeated `**` count once). A path matches when one
alternative matches its names; negation flips the answer.

`**` stands for any number of names other than `.` and `..`. With several `**`, the
segments between them are placed from left to right, each no further than a bound worked
out from the counts of segments around it; a placement whose rest has no room ends the
whole search. -/
namespace FolderSink

namespace Glob

/-- The longest pattern accepted, in UTF-16 units. -/
def maxPatternLength : Nat := 65536

/-- How deep the placement of segments between `**` goes before giving up. -/
def maxGlobstarDepth : Nat := 200

/-- Why a pattern is refused. -/
inductive GlobError where
  /-- The pattern is longer than `maxPatternLength`. -/
  | tooLong
  /-- A segment's regular expression does not compile; the engine's message. -/
  | badExpression (message : Utf16)

namespace GlobError

/-- The class of the error as the engine names it. -/
def errorClass : GlobError → String
  | .tooLong => "TypeError"
  | .badExpression _ => "SyntaxError"

/-- The message of the error. -/
def message : GlobError → Utf16
  | .tooLong => Utf16.ofString "pattern is too long"
  | .badExpression m => m

end GlobError

/-- A compiled pattern. -/
inductive Pattern where
  /-- A comment: matches nothing. -/
  | comment
  /-- The empty pattern: matches only the empty path. -/
  | empty
  /-- Alternatives of segment tests, and whether the answer is negated. -/
  | alternatives (negate : Bool) (sets : List (List PartTest))

/-- Split a path at runs of slashes. -/
def slashSplit (p : Utf16) : List Utf16 :=
  let rec go : Utf16 → Utf16 → Bool → List Utf16
    | [], cur, _ => [cur.reverse]
    | 0x2F :: rest, cur, inRun => if inRun then go rest cur true else cur.reverse :: go rest [] true
    | u :: rest, cur, _ => go rest (u :: cur) false
  go p [] false

/-- Cancel `x/..` pairs and repeated `**`; an empty result is one empty segment. -/
def levelOne (parts : List Utf16) : List Utf16 :=
  let star : Utf16 := [0x2A, 0x2A]
  let dots : Utf16 := [0x2E, 0x2E]
  let out := parts.foldl (fun acc part =>
    match acc.getLast? with
    | some prev =>
      if part == star && prev == star then acc
      else if part == dots && !prev.isEmpty && prev != dots && prev != [0x2E] && prev != star then
        acc.dropLast
      else acc ++ [part]
    | none => acc ++ [part]) []
  if out.isEmpty then [[]] else out

/-- Compile the segments of one alternative, the first failure winning. -/
def compileSet : List Utf16 → Except GlobError (List PartTest)
  | [] => .ok []
  | s :: rest => do
    let t ← (PartTest.compile s).mapError GlobError.badExpression
    let ts ← compileSet rest
    .ok (t :: ts)

/-- Compile the alternatives in order, the first failure winning. -/
def compileSets : List (List Utf16) → Except GlobError (List (List PartTest))
  | [] => .ok []
  | s :: rest => do
    let t ← compileSet s
    let ts ← compileSets rest
    .ok (t :: ts)

/-- Compile a pattern (see the module note). -/
def Pattern.compile (p : Utf16) : Except GlobError Pattern :=
  if p.length > maxPatternLength then .error .tooLong
  else if p.head? == some 0x23 then .ok .comment
  else if p.isEmpty then .ok .empty
  else
    let bangs := (p.takeWhile (· == 0x21)).length
    let body := p.drop bangs
    let sets := (braceExpand body).map fun e => levelOne (slashSplit e)
    (compileSets sets).map (.alternatives (bangs % 2 == 1))

/-- Whether a name is `.` or `..`. -/
def isDots (f : Utf16) : Bool := f == [0x2E] || f == [0x2E, 0x2E]

/-- Names against segments one for one: all names and segments used, or one empty name
left over (a trailing slash). -/
def walk : List Utf16 → List PartTest → Bool
  | f :: fs, t :: ts => t.test f && walk fs ts
  | [], [] => true
  | [], _ :: _ => false
  | fs, [] => fs == [[]]

/-- Place the segments that lie between `**` marks: `sections` holds each run with the
last start it may take; `next` goes on with the following runs from a position. From
`fileIndex` on, try each start; a run that fits hands over to `next`, whose `some true`
or `none` ends the search. A `.` or `..` passed over stops it. -/
def placeRun (file : List Utf16) (body : List PartTest) (after : Int) (depth : Nat)
    (next : Nat → Option Bool) : Nat → Nat → Option Bool
  | 0, _ => none
  | fuel + 1, i =>
    if (i : Int) > after then none
    else
      let fits := walk ((file.take (i + body.length)).drop i) body
      let sub := if fits && depth < maxGlobstarDepth then next (i + body.length) else some false
      if sub != some false then sub
      else if (file[i]?).any isDots then some false
      else placeRun file body after depth next fuel (i + 1)

/-- Place the runs between `**` marks from `fileIndex`; after the last run every name left
must be other than `.` and `..`, and some name must be left or a tail must have matched. -/
def placeRuns (file : List Utf16) : List (List PartTest × Int) → Nat → Nat → Bool → Option Bool
  | [], fileIndex, _, sawTail =>
    let rest := file.drop fileIndex
    if rest.any isDots then some false else some (sawTail || !rest.isEmpty)
  | (body, after) :: runs, fileIndex, depth, sawTail =>
    placeRun file body after depth (fun j => placeRuns file runs j (depth + 1) sawTail)
      (file.length + 2) fileIndex

/-- Split segments at `**` marks into runs. -/
def splitRuns : List PartTest → List (List PartTest)
  | [] => [[]]
  | .globstar :: rest => [] :: splitRuns rest
  | t :: rest =>
    match splitRuns rest with
    | r :: rs => (t :: r) :: rs
    | [] => [[t]]

/-- Whether a segment is `**`. -/
def PartTest.isGlobstar : PartTest → Bool
  | .globstar => true
  | _ => false

/-- Match names against segments that contain `**`: the part before the first `**` must
match the first names, the part after the last must match the last names (or all but a
trailing empty one), and the runs between are placed in what remains. -/
def matchGlobstar (file : List Utf16) (pattern : List PartTest) : Bool :=
  let firstgs := pattern.findIdx PartTest.isGlobstar
  let lastgs := pattern.length - 1 - (pattern.reverse.findIdx PartTest.isGlobstar)
  let head := pattern.take firstgs
  let body := (pattern.take lastgs).drop (firstgs + 1)
  let tail := pattern.drop (lastgs + 1)
  if !head.isEmpty && !walk (file.take head.length) head then false
  else
    let fileIndex := head.length
    let tailMatch : Option Nat :=
      if tail.isEmpty then some 0
      else if tail.length + fileIndex > file.length then none
      else
        let tailStart := file.length - tail.length
        if walk (file.drop tailStart) tail then some tail.length
        else if file.getLast? != some [] || fileIndex + tail.length == file.length then none
        else if walk (file.drop (tailStart - 1)) tail then some (tail.length + 1)
        else none
    match tailMatch with
    | none => false
    | some fileTailMatch =>
      if body.isEmpty then
        let middle := (file.take (file.length - fileTailMatch)).drop fileIndex
        if middle.any isDots then false else fileTailMatch > 0 || !middle.isEmpty
      else
        let runs := splitRuns body
        let sums := (runs.dropLast.map List.length).foldl (fun acc n => acc ++ [acc.getLast?.getD 0 + n]) [0]
        let fileLength : Int := file.length - fileTailMatch
        let m := runs.length
        let placed := runs.zipIdx.map fun (r, j) =>
          (r, fileLength - ((sums.getD (m - 1 - j) 0 : Nat) + r.length : Nat))
        placeRuns file placed fileIndex 0 (fileTailMatch > 0) == some true

/-- Whether the names of a path match one alternative. -/
def matchSet (file : List Utf16) (pattern : List PartTest) : Bool :=
  if pattern.any PartTest.isGlobstar then matchGlobstar file pattern else walk file pattern

/-- Whether a path matches a compiled pattern. -/
def Pattern.test (p : Pattern) (f : Utf16) : Bool :=
  match p with
  | .comment => false
  | .empty => f.isEmpty
  | .alternatives negate sets =>
    let names := slashSplit f
    if sets.any (matchSet names) then !negate else negate

/-- Whether a path matches a pattern; a comment matches nothing even when the pattern is
too long to compile. -/
def globMatch (f p : Utf16) : Except GlobError Bool :=
  if p.length > maxPatternLength then .error .tooLong
  else if p.head? == some 0x23 then .ok false
  else (Pattern.compile p).map (·.test f)

end Glob

end FolderSink
