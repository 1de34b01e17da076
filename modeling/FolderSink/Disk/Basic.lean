/-! A file system held in memory: every entry under the root, keyed by its names from the
root, with its kind. The root itself is always a directory and is not listed. Files hold
text and a permission mode; symbolic links hold their target as written. Failing calls
report an error code, the call's name and the paths it was given, in the system's usual
wording. -/
namespace FolderSink

/-- What an entry is. -/
inductive Kind where
  | dir
  | file (content : String) (mode : Nat)
  | link (target : String)
  | fifo
deriving DecidableEq, Repr

/-- The names of an entry, from the root down. -/
abbrev Place := List String

/-- A file system: the entries below the root. -/
structure Disk where
  entries : List (Place × Kind)
deriving Repr

namespace Disk

/-- A file system with only the root directory. -/
def empty : Disk := ⟨[]⟩

/-- The entry at a place; the root is a directory. -/
def get? (d : Disk) (p : Place) : Option Kind :=
  if p.isEmpty then some .dir else d.entries.lookup p

/-- The entries directly inside a directory, sorted by name. -/
def children (d : Disk) (p : Place) : List (String × Kind) :=
  let direct := d.entries.filterMap fun (q, k) =>
    match q.getLast? with
    | some n => if q.dropLast == p then some (n, k) else none
    | none => none
  direct.mergeSort (fun a b => decide (a.1 ≤ b.1))

/-- Set the entry at a place. -/
def put (d : Disk) (p : Place) (k : Kind) : Disk :=
  if d.entries.any (·.1 == p) then ⟨d.entries.map fun e => if e.1 == p then (p, k) else e⟩
  else ⟨d.entries ++ [(p, k)]⟩

/-- Remove an entry and everything below it. -/
def removeTree (d : Disk) (p : Place) : Disk :=
  ⟨d.entries.filter fun e => !p.isPrefixOf e.1⟩

/-- Move an entry and everything below it to another place. -/
def move (d : Disk) (src dst : Place) : Disk :=
  let d := d.removeTree dst
  ⟨d.entries.map fun e => if src.isPrefixOf e.1 then (dst ++ e.1.drop src.length, e.2) else e⟩

/-- Every entry below a place, sorted by the names from it. -/
def below (d : Disk) (p : Place) : List (Place × Kind) :=
  let inside := d.entries.filterMap fun (q, k) =>
    if p.isPrefixOf q && q.length > p.length then some (q.drop p.length, k) else none
  inside.mergeSort (fun a b => decide ("/".intercalate a.1 ≤ "/".intercalate b.1))

/-- The longest link target, in names; it bounds the work of resolving a path. -/
def longestTarget (d : Disk) : Nat :=
  d.entries.foldl (fun m e => match e.2 with
    | .link t => max m (t.splitOn "/").length
    | _ => m) 0

end Disk

/-- The error codes a call can fail with. -/
inductive Errno where
  | ENOENT | EEXIST | ENOTDIR | EISDIR | ELOOP | ENOTEMPTY | EINVAL | EBUSY
deriving DecidableEq, Repr

namespace Errno

/-- The code's name. -/
def code : Errno → String
  | .ENOENT => "ENOENT" | .EEXIST => "EEXIST" | .ENOTDIR => "ENOTDIR" | .EISDIR => "EISDIR"
  | .ELOOP => "ELOOP" | .ENOTEMPTY => "ENOTEMPTY" | .EINVAL => "EINVAL" | .EBUSY => "EBUSY"

/-- The code's description. -/
def description : Errno → String
  | .ENOENT => "no such file or directory"
  | .EEXIST => "file already exists"
  | .ENOTDIR => "not a directory"
  | .EISDIR => "illegal operation on a directory"
  | .ELOOP => "too many symbolic links encountered"
  | .ENOTEMPTY => "directory not empty"
  | .EINVAL => "invalid argument"
  | .EBUSY => "resource busy or locked"

end Errno

/-- A failed call: its code, the call's name, and the path (and second path) it was
given. -/
structure SysError where
  errno : Errno
  syscall : String
  path : String
  dest : Option String := none
deriving DecidableEq, Repr

/-- The message of a failed call: `CODE: description, call 'path'`, with ` -> 'dest'` for
calls on two paths. -/
def SysError.message (e : SysError) : String :=
  e.errno.code ++ ": " ++ e.errno.description ++ ", " ++ e.syscall ++ " '" ++ e.path ++ "'" ++
    (match e.dest with
     | some d => " -> '" ++ d ++ "'"
     | none => "")

end FolderSink
