import FolderSink.Tree.Ops
/-! Writing through a staging directory. The new content of a root is built beside it
(the kept entries of the root first, then the output tree) and swapped in with two
renames, so the root is untouched until the swap. A failure while building removes the
staging directory. When the first rename is refused in a way that means swapping cannot
work here, staging is removed and the caller writes in place instead. A root reached
through a link keeps its link: the directory it leads to is swapped. -/
namespace FolderSink

namespace Tree

/-- The result of a staged write. -/
inductive StagedOutcome where
  | swapped
  | unsupported
deriving DecidableEq, Repr

/-- The text of an outcome. -/
def StagedOutcome.text : StagedOutcome → String
  | .swapped => "swapped"
  | .unsupported => "unsupported"

/-- Rename failures that mean the swap cannot work on this file system. -/
def swapUnsupported (e : Errno) : Bool := e == .EBUSY

mutual

/-- Copy the kept entries of `dir` into `stagingDir`; whether anything was kept, and the
number of files and links copied. A directory is recreated when it is kept itself or
something below it is. -/
def preserveIn (keep : PathMatcher) : Nat → String → String → Act (Bool × Nat)
  | 0, _, _ => pure (false, 0)
  | f + 1, dir, stagingDir => do
    let entries ← readEntries dir
    preserveEntries keep f dir stagingDir entries

/-- Copy the kept ones among the given entries of `dir`. -/
def preserveEntries (keep : PathMatcher) : Nat → String → String → List (String × Kind) → Act (Bool × Nat)
  | 0, _, _, _ => pure (false, 0)
  | _ + 1, _, _, [] => pure (false, 0)
  | f + 1, dir, stagingDir, (name, kind) :: rest => do
    let full := Path.join [dir, name]
    let staged := Path.join [stagingDir, name]
    let (keptHere, copiedHere) ← match kind with
      | .dir => do
        let (keptBelow, copiedBelow) ← preserveIn keep f full staged
        let kept ← if keptBelow then pure true else Act.test keep full
        if kept then ensureDir staged
        pure (kept, copiedBelow)
      | _ => do
        if ← Act.test keep full then
          ensureDir stagingDir
          let wrote ← copyLeaf full staged kind
          pure (true, if wrote then 1 else 0)
        else pure (false, 0)
    let (keptRest, copiedRest) ← preserveEntries keep f dir stagingDir rest
    pure (keptHere || keptRest, copiedHere + copiedRest)

end

/-- Copy the entries of `root` that `keep` selects into `staging`; the number of files and
links copied. -/
def copyPreserved (root staging : String) (keep : PathMatcher) : Act Nat := do
  let d ← Act.disk
  let (_, n) ← preserveIn keep (2 * d.entries.length + 2) root staging
  pure n

/-- The stamps that make the names of a staged write's two siblings unique: the clock is read
again for each name as it is made, so the two may differ. -/
structure Stamps where
  staging : String
  previous : String

/-- A hidden sibling of a directory: `.<name>.<label>-<stamp>` beside it. -/
def siblingPath (root label stamp : String) : String :=
  Path.join [Path.dirname root, "." ++ Path.basename root ++ "." ++ label ++ "-" ++ stamp]

/-- Remove a tree, ignoring a missing one. -/
def removeTree (p : String) : Act Unit :=
  modify fun h => { h with disk := h.disk.removeAll p }

/-- Rename, keeping the system's error for the caller to judge. -/
def renameRaw (a b : String) : Act (Option SysError) := do
  match (← Act.disk).rename a b with
  | .ok d => modify (fun h => { h with disk := d }); pure none
  | .error e => pure (some e)

/-- Build the new content of `root` in the directory `staging`, made first: the entries
of `root` that `keep` selects, then the output tree over them. -/
def buildStaging (root outputTree : String) (keep : PathMatcher) (staging : String) :
    Act Unit := do
  Act.change .mkdir staging (·.mkdir staging)
  let _ ← copyPreserved root staging keep
  let _ ← copyRecursively outputTree staging
  pure ()

/-- Build the new content of `root` beside it and swap it in (see the module note);
`stamps` make the sibling names unique. -/
def stagedWrite (root outputTree : String) (keep : PathMatcher) (stamps : Stamps) :
    Act StagedOutcome := do
  let target ← Act.ask .read root (·.realpath root)
  let staging := siblingPath target "staging" stamps.staging
  let previous := siblingPath target "previous" stamps.previous
  tryCatch (buildStaging root outputTree keep staging)
    (fun err => do removeTree staging; throw err)
  match ← renameRaw target previous with
  | some e =>
    removeTree staging
    if swapUnsupported e.errno then return .unsupported
    throw (Act.ioFailure .rename target e)
  | none => pure ()
  match ← renameRaw staging target with
  | some e =>
    Act.change .rename previous (·.rename previous target)
    removeTree staging
    if swapUnsupported e.errno then return .unsupported
    throw (Act.ioFailure .rename staging e)
  | none => pure ()
  removeTree previous
  pure .swapped

end Tree

end FolderSink
