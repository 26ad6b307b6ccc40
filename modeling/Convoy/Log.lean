/-!
# Log lines

A line has a level and a text. A reader of the log asks for the lines at a level or above.
-/

namespace Convoy

/-- How much a log line matters, the least first. -/
inductive Level where
  | debug
  | info
  | warn
  | error
  deriving DecidableEq

namespace Level

def rank : Level → Nat
  | debug => 0
  | info => 1
  | warn => 2
  | error => 3

def name : Level → String
  | debug => "DEBUG"
  | info => "INFO"
  | warn => "WARN"
  | error => "ERROR"

end Level

/-- One line of a log. -/
structure LogLine where
  level : Level
  text : String
  deriving DecidableEq

namespace LogLine

def debug (text : String) : LogLine := ⟨.debug, text⟩

def info (text : String) : LogLine := ⟨.info, text⟩

def warn (text : String) : LogLine := ⟨.warn, text⟩

def error (text : String) : LogLine := ⟨.error, text⟩

/-- Whether a line is at a level or above it. -/
def atLeast (least : Level) (line : LogLine) : Bool := least.rank ≤ line.level.rank

end LogLine

end Convoy
