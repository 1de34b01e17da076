import FolderSink.Tree.Act
/-! Operations on whole directory trees. Deleting removes every entry below a root that a
matcher does not keep: symbolic links are removed and never followed, and a directory goes
only when it is not kept and is empty once its own entries are handled, so keeping a
directory does not keep what is in it. Copying recreates the entries of one directory in
another: directories are created as needed (replacing a link in the way), files and links
are written over what is there, and other special files are skipped; a file copied onto a
FIFO waits forever for a reader. Entries are visited in byte order of their names, so a
failure always happens at the same entry. -/
namespace FolderSink

namespace Tree

/-- The entries of a directory with their own kinds. -/
def readEntries (dir : String) : Act (List (String × Kind)) := Act.ask .read dir (·.readdir dir)

/-- The entry at a path without following a link there; `none` when missing. -/
def lstatOrNull (p : String) : Act (Option Kind) := Act.ask .read p (·.lstat? p)

/-- Create a directory and its missing parents; a link where the directory should be is
removed first, never written through. -/
def ensureDir (dir : String) : Act Unit := do
  if let some (.link _) ← lstatOrNull dir then
    Act.change .delete dir (·.unlink dir)
  Act.change .mkdir dir (·.mkdirs dir)

/-- Copy one entry that is not a directory over whatever file or link is at `dst`; false
for an entry that is neither a file nor a link. -/
def copyLeaf (src dst : String) (kind : Kind) : Act Bool := do
  match kind with
  | .link _ =>
    let target ← Act.ask .read src (·.readlink src)
    if (← lstatOrNull dst).isSome then
      Act.change .delete dst (·.unlink dst)
    Act.change .copy dst (·.symlink target dst)
    pure true
  | .file .. =>
    if let some (.link _) ← lstatOrNull dst then
      Act.change .delete dst (·.unlink dst)
    Act.changeOrStall .copy dst ("copyfile '" ++ src ++ "' -> '" ++ dst ++ "'")
      (·.copyFile src dst)
    pure true
  | _ => pure false

mutual

/-- Delete the entries of `dir` that are not kept, deepest first; the number removed. -/
def deleteIn (keep : PathMatcher) : Nat → String → Act Nat
  | 0, _ => pure 0
  | f + 1, dir => do
    let entries ← readEntries dir
    deleteEntries keep f dir entries

/-- Delete among the given entries of `dir`. -/
def deleteEntries (keep : PathMatcher) : Nat → String → List (String × Kind) → Act Nat
  | 0, _, _ => pure 0
  | _ + 1, _, [] => pure 0
  | f + 1, dir, (name, kind) :: rest => do
    let full := Path.join [dir, name]
    let here ← match kind with
      | .dir => do
        let below ← deleteIn keep f full
        if !(← Act.test keep full) then
          if (← readEntries full).isEmpty then
            Act.change .delete full (·.rmdir full)
            pure (below + 1)
          else pure below
        else pure below
      | _ => do
        if !(← Act.test keep full) then
          Act.change .delete full (·.unlink full)
          pure 1
        else pure 0
    let more ← deleteEntries keep f dir rest
    pure (here + more)

end

/-- Delete every entry below `root` that `keep` does not keep; `root` stays. Gives the
number of entries removed. -/
def deleteRecursively (root : String) (keep : PathMatcher) : Act Nat := do
  let d ← Act.disk
  deleteIn keep (2 * d.entries.length + 2) root

mutual

/-- Copy the entries of `src` into `dst`; the number of files and links written. -/
def copyIn : Nat → String → String → Act Nat
  | 0, _, _ => pure 0
  | f + 1, src, dst => do
    let entries ← readEntries src
    copyEntries f src dst entries

/-- Copy the given entries of `src` into `dst`. -/
def copyEntries : Nat → String → String → List (String × Kind) → Act Nat
  | 0, _, _, _ => pure 0
  | _ + 1, _, _, [] => pure 0
  | f + 1, src, dst, (name, kind) :: rest => do
    let srcPath := Path.join [src, name]
    let dstPath := Path.join [dst, name]
    let here ← match kind with
      | .dir => do
        ensureDir dstPath
        copyIn f srcPath dstPath
      | _ => do
        if ← copyLeaf srcPath dstPath kind then pure 1 else pure 0
    let more ← copyEntries f src dst rest
    pure (here + more)

end

/-- Copy the contents of `source` into `destination`, creating it when missing; nothing at
the destination is deleted. Gives the number of files and links written. -/
def copyRecursively (source destination : String) : Act Nat := do
  Act.change .mkdir destination (·.mkdirs destination)
  let d ← Act.disk
  copyIn (2 * d.entries.length + 2) source destination

end Tree

end FolderSink
