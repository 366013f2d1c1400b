/-!
# The journal

What the library reports while it works: short messages with a severity and the part that speaks.
-/

namespace OrderSheet

inductive Severity where
  | info
  | warning
  | error
  deriving DecidableEq, Repr

def Severity.label : Severity → String
  | info => "INFO"
  | warning => "WARNING"
  | error => "ERROR"

structure Record where
  severity : Severity
  source : String
  text : String
  deriving DecidableEq, Repr

end OrderSheet
