/-! The messages the destination reports while it works, kept in order with their level.
Progress lines are informational only. -/
namespace FolderSink

/-- How important a reported message is. -/
inductive Level where
  | progress | info | warn | error
deriving DecidableEq, Repr

/-- The name of a level as it is reported. -/
def Level.text : Level → String
  | .progress => "progress"
  | .info => "info"
  | .warn => "warn"
  | .error => "error"

/-- One reported message. -/
structure ConsoleLine where
  level : Level
  message : String
deriving DecidableEq, Repr

/-- The messages reported so far, oldest first. -/
abbrev Console := List ConsoleLine

/-- Report one more message. -/
def Console.say (c : Console) (level : Level) (message : String) : Console :=
  c ++ [⟨level, message⟩]

end FolderSink
