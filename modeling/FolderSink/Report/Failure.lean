import FolderSink.Disk.Basic
/-! The failures the destination reports. Each has a class name, a code and a message;
some carry the path they concern. File system failures name the operation that failed and
the underlying error code, such as `ENOENT`. Work that never finishes is marked as stalled:
nothing is reported then, since no answer ever comes. -/
namespace FolderSink

/-- The file system operations whose failure is reported. -/
inductive Operation where
  | mkdir | delete | copy | read | rename
deriving DecidableEq, Repr

/-- The name of an operation as it is reported. -/
def Operation.text : Operation → String
  | .mkdir => "mkdir"
  | .delete => "delete"
  | .copy => "copy"
  | .read => "read"
  | .rename => "rename"

/-- A failure of the destination. -/
inductive Failure where
  /-- The destination (or a directory on the way to it) is a file: `offending` is the
  first such path. -/
  | conflict (destination offending : String)
  /-- A file system operation failed on `path`; `detail` is the system's message and
  `errno` its code. -/
  | io (op : Operation) (path : String) (detail : String) (errno : Option String)
  /-- The configuration is not acceptable. -/
  | config (message : String)
  /-- The destination does not offer the operation asked for. -/
  | unsupported (message : String)
  /-- A failure raised outside the destination's own kinds, by its class name. -/
  | thrown (name : String) (message : String)
  /-- A failed system call that reached the caller unwrapped. -/
  | system (e : SysError)
  /-- The work stops for good and never answers: a call waits forever, or a loop's counter
  no longer moves. `what` says where it stopped. -/
  | stalled (what : String)
deriving Repr

namespace Failure

/-- The class name of a failure. -/
def name : Failure → String
  | .conflict .. => "DestinationConflict"
  | .io .. => "IOFailure"
  | .config _ => "ConfigError"
  | .unsupported _ => "UnsupportedOperation"
  | .thrown n _ => n
  | .system _ => "Error"
  | .stalled _ => "Stalled"

/-- The code of a failure; none for a failure from outside. -/
def code : Failure → Option String
  | .conflict .. => some "DESTINATION_CONFLICT"
  | .io .. => some "IO_FAILURE"
  | .config _ => some "CONFIG_INVALID"
  | .unsupported _ => some "UNSUPPORTED_OPERATION"
  | .thrown .. => none
  | .system e => some e.errno.code
  | .stalled _ => none

/-- The message of a failure. -/
def message : Failure → String
  | .conflict d o => "Cannot create '" ++ d ++ "' because '" ++ o ++ "' already exists and is not a directory"
  | .io op p detail _ => "Failed to " ++ op.text ++ " '" ++ p ++ "': " ++ detail
  | .config m => m
  | .unsupported m => m
  | .thrown _ m => m
  | .system e => e.message
  | .stalled what => what

/-- The named fields a failure carries besides its class, code and message. -/
def fields : Failure → List (String × String)
  | .conflict d o => [("path", d), ("offendingPath", o)]
  | .io op p _ errno => [("path", p), ("operation", op.text)] ++ (errno.map (("errno", ·))).toList
  | .system e => [("path", e.path)]
  | _ => []

end Failure

end FolderSink
