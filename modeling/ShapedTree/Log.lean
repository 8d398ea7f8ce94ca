import ShapedTree.Fault

namespace ShapedTree

/-- How much a message matters. -/
inductive LogLevel where
  | warn
  | debug
deriving DecidableEq, Repr, Inhabited

/-- A message for the log. -/
structure LogEntry where
  level : LogLevel
  text : String
deriving DecidableEq, Repr, Inhabited

/-- Where messages go: to the sinks that a logger has, or to the console, which takes warnings
only. -/
inductive LogSink where
  | both
  | warnOnly
  | debugOnly
  | console
  | silent
deriving DecidableEq, Repr, Inhabited

namespace LogSink

/-- The channel on which a message of a level appears, if it does. -/
def channel? : LogSink → LogLevel → Option String
  | .both, .warn | .warnOnly, .warn => some "warn"
  | .both, .debug | .debugOnly, .debug => some "debug"
  | .console, .warn => some "console"
  | _, _ => none

/-- The messages that appear, with their channels. -/
def shown (s : LogSink) (entries : List LogEntry) : List (String × String) :=
  entries.filterMap fun e => (s.channel? e.level).map fun c => (c, e.text)

end LogSink

/-- A computation that logs and may fail. -/
abbrev Logged (α : Type) := ExceptT Fault (StateM (Array LogEntry)) α

namespace Logged

def log (level : LogLevel) (text : String) : Logged Unit := modify (·.push ⟨level, text⟩)

end Logged

end ShapedTree
