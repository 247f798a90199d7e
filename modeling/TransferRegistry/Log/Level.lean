/-!
# Log levels

`Severity` is how serious a line is, `LevelFilter` up to which severity lines are shown; `LevelFilter.parse?` reads
the name of a filter and `LevelFilter.shows` applies it.
-/

namespace TransferRegistry

/-- How serious a line is. -/
inductive Severity where
  | error
  | warn
  | info
  | debug
deriving DecidableEq

/-- Which lines are shown. -/
inductive LevelFilter where
  | off
  | error
  | warn
  | info
  | debug
  | trace
deriving DecidableEq

/-- The name of a severity in a line. -/
def Severity.label : Severity → String
  | error => "ERROR"
  | warn => "WARN"
  | info => "INFO"
  | debug => "DEBUG"

/-- The more serious a line is, the lower is its rank. -/
def Severity.rank : Severity → Nat
  | error => 1
  | warn => 2
  | info => 3
  | debug => 4

namespace LevelFilter

/-- Every filter, from the one that shows least. -/
def all : List LevelFilter := [off, error, warn, info, debug, trace]

def label : LevelFilter → String
  | off => "OFF"
  | error => "ERROR"
  | warn => "WARN"
  | info => "INFO"
  | debug => "DEBUG"
  | trace => "TRACE"

/-- The name of the filter in a configuration. -/
def name : LevelFilter → String
  | off => "off"
  | error => "error"
  | warn => "warn"
  | info => "info"
  | debug => "debug"
  | trace => "trace"

/-- The greatest rank that is shown. -/
def rank : LevelFilter → Nat
  | off => 0
  | error => 1
  | warn => 2
  | info => 3
  | debug => 4
  | trace => 5

def parse? (s : String) : Option LevelFilter := all.find? fun filter => filter.name = s

def shows (filter : LevelFilter) (severity : Severity) : Bool := severity.rank ≤ filter.rank

end LevelFilter

end TransferRegistry
