import FolderSink.Disk.Resolve
import FolderSink.Path.Posix
/-! The calls the destination makes on a file system, each failing as the system does:
reading entries and their kinds, creating and removing directories, files and links,
copying a file with its mode, renaming, and finding the real path of a directory. A
failing call leaves the file system unchanged. -/
namespace FolderSink

namespace Disk

/-- The mode of a newly written file. -/
def newFileMode : Nat := 0o644

/-- The entry at a path, its last link not followed; `none` when there is none, also when
the way to it runs through something that is not a directory. -/
def lstat? (d : Disk) (p : String) : Except SysError (Option Kind) :=
  match d.lookup p false with
  | .ok (_, k) => .ok k
  | .error .ENOENT => .ok none
  | .error .ENOTDIR => .ok none
  | .error e => .error ⟨e, "lstat", p, none⟩

/-- The entry a path leads to, links followed; `none` when there is none, also when the way
to it runs through something that is not a directory. -/
def stat? (d : Disk) (p : String) : Except SysError (Option Kind) :=
  match d.lookup p true with
  | .ok (_, k) => .ok k
  | .error .ENOENT => .ok none
  | .error .ENOTDIR => .ok none
  | .error e => .error ⟨e, "stat", p, none⟩

/-- Whether a path leads to an entry, links followed. -/
def exists? (d : Disk) (p : String) : Bool :=
  match d.lookup p true with
  | .ok (_, some _) => true
  | _ => false

/-- The entries of a directory with their own kinds, sorted by name. -/
def readdir (d : Disk) (p : String) : Except SysError (List (String × Kind)) :=
  let fail (e : Errno) : Except SysError (List (String × Kind)) := .error ⟨e, "scandir", p, none⟩
  match d.lookup p true with
  | .ok (place, some .dir) => .ok (d.children place)
  | .ok (_, some _) => fail .ENOTDIR
  | .ok (_, none) => fail .ENOENT
  | .error e => fail e

/-- Create one directory; the code of the failure otherwise. -/
def mkdirCode (d : Disk) (p : String) : Except Errno Disk :=
  match d.lookup p false with
  | .ok (place, none) => .ok (d.put place .dir)
  | .ok (_, some _) => .error .EEXIST
  | .error e => .error e

/-- Create one directory. -/
def mkdir (d : Disk) (p : String) : Except SysError Disk :=
  (d.mkdirCode p).mapError fun e => ⟨e, "mkdir", p, none⟩

/-- The text before the last slash of a path; the path itself when it has none. -/
def beforeLastSlash (p : String) : String :=
  let cs := p.toList
  match (List.range cs.length).reverse.find? (fun i => cs[i]? == some '/') with
  | some i => String.ofList (cs.take i)
  | none => p

/-- Create a directory and its missing parents: try the path; when its parent is missing,
create the parent first and try again; an existing directory is fine, any other
existing entry is refused (as a non-directory when more paths wait). -/
def mkdirsLoop (d : Disk) : Nat → List String → Except Errno Disk
  | 0, _ => .ok d
  | _ + 1, [] => .ok d
  | f + 1, next :: pending =>
    let settle (orig : Errno) : Except Errno Disk :=
      match d.lookup next true with
      | .ok (_, some .dir) => d.mkdirsLoop f pending
      | .ok (_, some _) => .error (if orig == .EEXIST && !pending.isEmpty then .ENOTDIR else .EEXIST)
      | .ok (_, none) => .error .ENOENT
      | .error e => .error e
    match d.mkdirCode next with
    | .ok d' => d'.mkdirsLoop f pending
    | .error .ENOTDIR => .error .ENOTDIR
    | .error .ENOENT =>
      let parent := beforeLastSlash next
      if parent != next then d.mkdirsLoop f (parent :: next :: pending)
      else if pending.isEmpty then settle .EEXIST
      else d.mkdirsLoop f pending
    | .error e => settle e

/-- Create a directory with its missing parents. -/
def mkdirs (d : Disk) (p : String) : Except SysError Disk :=
  (d.mkdirsLoop (4 * p.length + 8) [p]).mapError fun e => ⟨e, "mkdir", p, none⟩

/-- Remove an empty directory. -/
def rmdir (d : Disk) (p : String) : Except SysError Disk :=
  let fail (e : Errno) : Except SysError Disk := .error ⟨e, "rmdir", p, none⟩
  match d.lookup p false with
  | .ok ([], _) => fail .EBUSY
  | .ok (place, some .dir) => if (d.children place).isEmpty then .ok (d.removeTree place) else fail .ENOTEMPTY
  | .ok (_, some _) => fail .ENOTDIR
  | .ok (_, none) => fail .ENOENT
  | .error e => fail e

/-- Remove a file, link or other non-directory. -/
def unlink (d : Disk) (p : String) : Except SysError Disk :=
  let fail (e : Errno) : Except SysError Disk := .error ⟨e, "unlink", p, none⟩
  match d.lookup p false with
  | .ok (_, some .dir) => fail .EISDIR
  | .ok (place, some _) => .ok (d.removeTree place)
  | .ok (_, none) => fail .ENOENT
  | .error e => fail e

/-- Copy a file's content and mode to a path, links followed at both ends; `none` when the
call never returns. Opening a FIFO waits for a process at its other end, and none comes: at
the source for a writer, at the destination for a reader. -/
def copyFile (d : Disk) (src dst : String) : Except SysError (Option Disk) :=
  let fail (e : Errno) : Except SysError (Option Disk) := .error ⟨e, "copyfile", src, some dst⟩
  match d.lookup src true with
  | .error e => fail e
  | .ok (_, none) => fail .ENOENT
  | .ok (_, some .dir) => fail .EISDIR
  | .ok (_, some .fifo) => .ok none
  | .ok (_, some k) =>
    let (content, mode) := match k with
      | .file c m => (c, m)
      | _ => ("", newFileMode)
    match d.lookup dst true with
    | .error e => fail e
    | .ok (_, some .dir) => fail .EISDIR
    | .ok (_, some .fifo) => .ok none
    | .ok (place, _) => .ok (some (d.put place (.file content mode)))

/-- Create a symbolic link at `p` holding `target`. -/
def symlink (d : Disk) (target p : String) : Except SysError Disk :=
  let fail (e : Errno) : Except SysError Disk := .error ⟨e, "symlink", target, some p⟩
  match d.lookup p false with
  | .ok (place, none) => .ok (d.put place (.link target))
  | .ok (_, some _) => fail .EEXIST
  | .error e => fail e

/-- Create a named pipe. -/
def mkfifo (d : Disk) (p : String) : Except SysError Disk :=
  let fail (e : Errno) : Except SysError Disk := .error ⟨e, "mkfifo", p, none⟩
  match d.lookup p false with
  | .ok (place, none) => .ok (d.put place .fifo)
  | .ok (_, some _) => fail .EEXIST
  | .error e => fail e

/-- The target of a symbolic link. -/
def readlink (d : Disk) (p : String) : Except SysError String :=
  let fail (e : Errno) : Except SysError String := .error ⟨e, "readlink", p, none⟩
  match d.lookup p false with
  | .ok (_, some (.link t)) => .ok t
  | .ok (_, some _) => fail .EINVAL
  | .ok (_, none) => fail .ENOENT
  | .error e => fail e

/-- Rename an entry, replacing what is at the new path when the kinds allow it: a directory
only replaces an empty directory and never moves below itself; a non-directory never
replaces a directory. -/
def rename (d : Disk) (a b : String) : Except SysError Disk :=
  let fail (e : Errno) : Except SysError Disk := .error ⟨e, "rename", a, some b⟩
  match d.lookup a false, d.lookup b false with
  | .error e, _ => fail e
  | .ok (_, none), _ => fail .ENOENT
  | _, .error e => fail e
  | .ok (pa, some ka), .ok (pb, kb) =>
    if pa == pb then .ok d
    else if ka == .dir then
      if pa.isPrefixOf pb then fail .EINVAL
      else match kb with
        | none => .ok (d.move pa pb)
        | some .dir => if (d.children pb).isEmpty then .ok (d.move pa pb) else fail .ENOTEMPTY
        | some _ => fail .ENOTDIR
    else match kb with
      | some .dir => fail .EISDIR
      | _ => .ok (d.move pa pb)

/-- Remove whatever is at a path, with everything below it; nothing when it is missing. -/
def removeAll (d : Disk) (p : String) : Disk :=
  match d.lookup p false with
  | .ok (place, some _) => if place.isEmpty then d else d.removeTree place
  | _ => d

/-- Write a file's whole content, creating it (mode 644) when missing; links followed. -/
def putFile (d : Disk) (p : String) (content : String) (append : Bool) : Except SysError Disk :=
  let fail (e : Errno) : Except SysError Disk := .error ⟨e, "open", p, none⟩
  match d.lookup p true with
  | .error e => fail e
  | .ok (_, some .dir) => fail .EISDIR
  | .ok (place, some (.file c m)) => .ok (d.put place (.file (if append then c ++ content else content) m))
  | .ok (place, _) => .ok (d.put place (.file content newFileMode))

/-- The content of a file; links followed. -/
def fileText (d : Disk) (p : String) : Except SysError String :=
  match d.lookup p true with
  | .error e => .error ⟨e, "open", p, none⟩
  | .ok (_, none) => .error ⟨.ENOENT, "open", p, none⟩
  | .ok (_, some .dir) => .error ⟨.EISDIR, "read", p, none⟩
  | .ok (_, some (.file c _)) => .ok c
  | .ok (_, some _) => .ok ""

/-- Set a file's mode; links followed. -/
def chmod (d : Disk) (p : String) (mode : Nat) : Except SysError Disk :=
  let fail (e : Errno) : Except SysError Disk := .error ⟨e, "chmod", p, none⟩
  match d.lookup p true with
  | .error e => fail e
  | .ok (_, none) => fail .ENOENT
  | .ok (place, some (.file c _)) => .ok (d.put place (.file c mode))
  | .ok _ => .ok d

/-- The size in bytes of the entry a path leads to. -/
def size (d : Disk) (p : String) : Except SysError Nat :=
  match d.lookup p true with
  | .ok (_, some (.file c _)) => .ok c.utf8ByteSize
  | .ok (_, some _) => .ok 0
  | .ok (_, none) => .error ⟨.ENOENT, "stat", p, none⟩
  | .error e => .error ⟨e, "stat", p, none⟩

/-- Replace the links on the way to `done ++ rest` one name at a time: each name is looked
at without following; a link must lead somewhere, and its target is put in its place. -/
def realpathLoop (d : Disk) : Nat → String → List String → Except SysError String
  | 0, done, _ => .ok done
  | _ + 1, done, [] => .ok done
  | f + 1, done, c :: rest =>
    let base := if done == "/" then "/" ++ c else done ++ "/" ++ c
    match d.lookup base false with
    | .error e => .error ⟨e, "lstat", base, none⟩
    | .ok (_, none) => .error ⟨.ENOENT, "lstat", base, none⟩
    | .ok (_, some (.link t)) =>
      match d.lookup base true with
      | .error e => .error ⟨e, "stat", base, none⟩
      | .ok (_, none) => .error ⟨.ENOENT, "stat", base, none⟩
      | .ok _ =>
        let next := Path.resolve "/" [done, t, "/".intercalate rest]
        d.realpathLoop f "/" ((next.splitOn "/").filter (· != ""))
    | .ok _ => d.realpathLoop f base rest

/-- The absolute path of an entry with every link on the way replaced by its target. -/
def realpath (d : Disk) (p : String) : Except SysError String :=
  let start := Path.resolve "/" [p]
  let comps := (start.splitOn "/").filter (· != "")
  d.realpathLoop ((comps.length + 2) * (maxLinks + 1) * (d.longestTarget + 2)) "/" comps

end Disk

end FolderSink
