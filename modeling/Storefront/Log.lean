import Storefront.Text.Case
import Storefront.Value

/-! # Records of what happened

What is worth telling is recorded with a severity, a message, and what it is about. -/

namespace Storefront

/-- How much is recorded. -/
inductive LogLevel where
  | normal
  /-- Requests and results are recorded too. -/
  | detailed
  deriving DecidableEq, Repr

/-- The level of a name; any name but one, in whatever case, means the normal level. -/
def LogLevel.ofName (name : String) : LogLevel :=
  if Text.lower name = "detailed" then .detailed else .normal

/-- How severe a record is. -/
inductive Severity where
  | debug
  | warning
  | error
  deriving DecidableEq, Repr

/-- The name of a severity. -/
def Severity.name : Severity → String
  | .debug => "DEBUG"
  | .warning => "WARNING"
  | .error => "ERROR"

/-- One record. -/
structure LogRecord where
  severity : Severity
  message : String
  details : List (String × Value)

end Storefront
