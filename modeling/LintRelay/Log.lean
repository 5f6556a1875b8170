/-!
# Log records

What the library reports about its own running.
-/

namespace LintRelay

/-- How much a log record matters. -/
inductive LogLevel where
  | debug
  | info
  | warning
  | error
  deriving DecidableEq, Repr, Inhabited

/-- One line of the log. -/
structure LogRecord where
  level : LogLevel
  text : String
  deriving DecidableEq, Repr, Inhabited

def LogLevel.name : LogLevel → String
  | .debug => "DEBUG"
  | .info => "INFO"
  | .warning => "WARNING"
  | .error => "ERROR"

def LogLevel.rank : LogLevel → Nat
  | .debug => 10
  | .info => 20
  | .warning => 30
  | .error => 40

def LogRecord.render (r : LogRecord) : String :=
  r.level.name ++ " " ++ r.text

end LintRelay
