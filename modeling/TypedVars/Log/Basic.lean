/-!
# Severity and fields of log entries

What the log says about something that happened: how severe it is, and named fields whose values are
texts or numbers.
-/

namespace TypedVars

/-- How severe an entry of the log is. -/
inductive Level where
  | error
  | warn
  | info
  | debug
  | trace
  deriving DecidableEq, Repr

namespace Level

/-- The more severe levels have the lower ranks. -/
def rank : Level → Nat
  | error => 1
  | warn => 2
  | info => 3
  | debug => 4
  | trace => 5

/-- The name of a level in the log. -/
def name : Level → String
  | error => "ERROR"
  | warn => "WARN"
  | info => "INFO"
  | debug => "DEBUG"
  | trace => "TRACE"

end Level

/-- The value of a field. -/
inductive Field where
  /-- A text that is shown as it is. -/
  | plain (s : String)
  /-- A text that a line of text shows in quotes. -/
  | quoted (s : String)
  | number (i : Int)
  deriving DecidableEq

end TypedVars
