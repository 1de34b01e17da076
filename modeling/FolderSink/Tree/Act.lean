import FolderSink.Disk.Calls
import FolderSink.Report.Console
import FolderSink.Report.Failure
import FolderSink.Path.Scope
/-! The setting in which the destination works: a file system and the messages reported
so far. Work either finishes with a result or stops at a failure; either way the file
system keeps every change made before that point. A failing call becomes an I/O failure
that names the operation and the path it was working on. -/
namespace FolderSink

/-- The file system and the messages reported so far. -/
structure Host where
  disk : Disk
  console : Console

/-- The working directory of the process. The file system reads a path that is not absolute
from the root, so that is the directory. -/
def Host.workDir : String := "/"

/-- Work on a host that may stop at a failure, keeping its changes up to there. -/
abbrev Act := ExceptT Failure (StateM Host)

namespace Act

/-- The current file system. -/
def disk : Act Disk := do return (← get).disk

/-- Report a message. -/
def say (level : Level) (message : String) : Act Unit :=
  modify fun h => { h with console := h.console.say level message }

/-- The failure for a failed call made while doing `op` on `path`. -/
def ioFailure (op : Operation) (path : String) (e : SysError) : Failure :=
  .io op path e.message (some e.errno.code)

/-- Ask the file system something, as part of `op` on `path`. -/
def ask (op : Operation) (path : String) (q : Disk → Except SysError α) : Act α := do
  match q (← disk) with
  | .ok a => pure a
  | .error e => throw (ioFailure op path e)

/-- Change the file system, as part of `op` on `path`. -/
def change (op : Operation) (path : String) (f : Disk → Except SysError Disk) : Act Unit := do
  match f (← disk) with
  | .ok d => modify fun h => { h with disk := d }
  | .error e => throw (ioFailure op path e)

/-- Change the file system by a call that may never return, as part of `op` on `path`; when
it does not return, the work stalls at `call`. -/
def changeOrStall (op : Operation) (path call : String)
    (f : Disk → Except SysError (Option Disk)) : Act Unit := do
  match f (← disk) with
  | .ok (some d) => modify fun h => { h with disk := d }
  | .ok none => throw (.stalled call)
  | .error e => throw (ioFailure op path e)

/-- Run a path matcher; a refused path or pattern stops the work. -/
def test (m : PathMatcher) (candidate : String) : Act Bool :=
  match m.test candidate with
  | .ok b => pure b
  | .error e => throw (.thrown e.errorClass (String.ofList (e.message.codePoints.map Char.ofNat)))

end Act

end FolderSink
