/-! # Log events

What the program tells about its own doing. Each event has a level and comes from one part of the
program; a filter selects events by both. -/
namespace Provisioning

/-- How much an event matters, from the least to the most. -/
inductive Level where
  | trace
  | debug
  | info
  | warn
  | error
deriving DecidableEq, Repr, Inhabited

namespace Level

/-- The position of a level among the five. -/
def rank : Level → Nat
  | .trace => 1
  | .debug => 2
  | .info => 3
  | .warn => 4
  | .error => 5

/-- The name of a level as it is written before a message. -/
def name : Level → String
  | .trace => "TRACE"
  | .debug => "DEBUG"
  | .info => "INFO"
  | .warn => "WARN"
  | .error => "ERROR"

end Level

/-- The part of the program that an event comes from. -/
inductive Source where
  | provisioner
  | runner
  | tools
  | commandLine
deriving DecidableEq, Repr, Inhabited

/-- The name by which a filter selects a part of the program. -/
def Source.target : Source → String
  | .provisioner => "swarming_bq_provision::provisioner"
  | .runner => "swarming_bq_provision::runner"
  | .tools => "swarming_bq_provision::tools"
  | .commandLine => "swarming_bq_cli"

/-- Something the program tells about its own doing. -/
structure Event where
  level : Level
  source : Source
  message : String
deriving DecidableEq, Repr, Inhabited

/-- Whether an event matters at least as much as a level. -/
def Event.isAtLeast (e : Event) (level : Level) : Bool :=
  level.rank ≤ e.level.rank

end Provisioning
