/-!
The messages of a run, and how many warnings about the data were among them.
-/

namespace Catalog

/-- How important a message is. -/
inductive Level
  | error
  | warn
  | info
  | debug
  deriving DecidableEq, Repr

/-- A message. A stage is an information that heads the messages after it. -/
structure Event where
  level : Level
  stage : Bool
  message : String
  deriving DecidableEq, Repr

/-- The line of a message. -/
def Event.line (event : Event) : String :=
  match event.level, event.stage with
  | .error, _ => "ERROR " ++ event.message
  | .warn, _ => "WARN  " ++ event.message
  | .info, true => "==> " ++ event.message
  | _, _ => "  " ++ event.message

/-- A finding about one item of the data. It never stops a run. -/
structure Warning where
  source : String
  item : String
  message : String
  deriving DecidableEq, Repr

/-- The line of a finding. -/
def Warning.line (warning : Warning) : String :=
  s!"  {warning.source} [{warning.item}]: {warning.message}"

/-- The messages so far in order, and the number of warnings counted. -/
structure Log where
  events : List Event
  warnings : Nat
  deriving DecidableEq, Repr

namespace Log

/-- Nothing said yet. -/
def empty : Log :=
  ⟨[], 0⟩

/-- Adds a message. -/
def add (log : Log) (level : Level) (stage : Bool) (message : String) : Log :=
  { log with events := log.events ++ [⟨level, stage, message⟩] }

/-- Adds an error. -/
def error (log : Log) (message : String) : Log :=
  log.add .error false message

/-- Adds a warning and counts it. -/
def warn (log : Log) (message : String) : Log :=
  { log.add .warn false message with warnings := log.warnings + 1 }

/-- Adds the heading of a stage. -/
def stage (log : Log) (message : String) : Log :=
  log.add .info true message

/-- Adds an information. -/
def info (log : Log) (message : String) : Log :=
  log.add .info false message

/-- Adds a detail that is only shown on request. -/
def debug (log : Log) (message : String) : Log :=
  log.add .debug false message

/-- Adds details one after the other. -/
def details (log : Log) (messages : List String) : Log :=
  messages.foldl debug log

/-- Adds findings behind a heading with their number. The heading itself is not counted; without
findings there is no heading. -/
def report (log : Log) (findings : List Warning) : Log :=
  if findings.isEmpty then log
  else
    let heading := log.add .warn false s!"found {findings.length} data warning(s):"
    findings.foldl (fun log finding => log.warn finding.line) heading

/-- The lines of the messages, with or without the details. -/
def lines (log : Log) (verbose : Bool) : List String :=
  (log.events.filter fun event => verbose || event.level ≠ .debug).map Event.line

end Log

end Catalog
