import FolderSink.Disk.Calls
import FolderSink.Value.Coerce
import FolderSink.Report.Console
import FolderSink.Report.Failure
/-! A console that appends each message to a log file, `[time] [LEVEL] message`, rotating
the file first when it has reached its size limit: numbered logs move up by one (the one
that would reach the file limit is deleted) and the current log becomes `.1.log`. The
limits are read as numbers when they are used; the size limit is in megabytes. -/
namespace FolderSink

/-- The name of a level in a log line. -/
def Level.tag : Level → String
  | .progress => "PROGRESS"
  | .info => "INFO"
  | .warn => "WARN"
  | .error => "ERROR"

/-- A rotating log in a directory. -/
structure Logger where
  logDir : String
  /-- The size in bytes at which the log rotates. -/
  maxLogSize : Double
  /-- The number of log files kept, once read as a number. -/
  maxLogFiles : Except String Double

namespace Logger

/-- The name the log files share. -/
def baseName : String := "folder-destination"

/-- The current log file. -/
def logFile (l : Logger) : String := Path.join [l.logDir, baseName ++ ".log"]

/-- A rotated log file. -/
def numbered (l : Logger) (i : Double) : String :=
  Path.join [l.logDir, baseName ++ "." ++ i.toText ++ ".log"]

/-- Open a log in `logDir`, creating the directory; missing limits are 10 MB and 5 files. -/
def create (logDir : String) (maxLogSizeMB maxLogFiles : Option Value) (d : Disk) :
    Except Failure (Logger × Disk) := do
  let mb ← match maxLogSizeMB with
    | none => pure (Double.ofNat 10)
    | some v => (v.toNumber).mapError (Failure.thrown "TypeError")
  let size := (mb.mul (Double.ofNat 1024)).mul (Double.ofNat 1024)
  let files := match maxLogFiles with
    | none => .ok (Double.ofNat 5)
    | some v => v.toNumber
  let d ← (d.mkdirs logDir).mapError Failure.system
  pure (⟨logDir, size, files⟩, d)

/-- Move the numbered logs up from `i` down to 1, deleting the one that would reach the
limit `m`. The count goes down in doubles: where taking one away leaves the counter where it
is (from `2^54` up, or at infinity), every later round repeats this one and the loop never
ends. -/
def shift (l : Logger) (m : Double) : Nat → Double → Disk → Except Failure Disk
  | 0, _, d => .ok d
  | f + 1, i, d =>
    if !(Double.zero false).lt i then .ok d
    else do
      let src := l.numbered i
      let next := i.add (Double.ofNat 1)
      let d ← if d.exists? src then
          if m.le next then (d.unlink src).mapError Failure.system
          else (d.rename src (l.numbered next)).mapError Failure.system
        else pure d
      let down := i.sub (Double.ofNat 1)
      if !down.lt i then throw (.stalled ("rotating " ++ src))
      l.shift m f down d

/-- Rotate when the log exists and has reached the size limit. -/
def rotate (l : Logger) (d : Disk) : Except Failure Disk := do
  if !d.exists? l.logFile then return d
  let size ← (d.size l.logFile).mapError Failure.system
  if (Double.ofNat size).lt l.maxLogSize then return d
  let m ← l.maxLogFiles.mapError (Failure.thrown "TypeError")
  -- each round that does not stall moves the counter down by at least one, so a finite `m`
  -- leaves the loop at most `m + 1` rounds; an infinite one stalls in the first
  let steps := if m.isFinite then m.truncate.toNat + 2 else 1
  let d ← l.shift m steps (m.sub (Double.ofNat 1)) d
  (d.rename l.logFile (l.numbered (Double.ofNat 1))).mapError Failure.system

/-- The line of a message written at time `stamp`. -/
def line (level : Level) (message stamp : String) : String :=
  "[" ++ stamp ++ "] [" ++ level.tag ++ "] " ++ message ++ "\n"

/-- Log a message at time `stamp`. -/
def log (l : Logger) (level : Level) (message stamp : String) (d : Disk) : Except Failure Disk := do
  let d ← l.rotate d
  (d.putFile l.logFile (line level message stamp) true).mapError Failure.system

end Logger

end FolderSink
