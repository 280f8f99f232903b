/-!
What the generator tells its operator while it works.
-/

namespace ComponentSchema

/-- How much an event matters. -/
inductive Severity where
  | error
  | warn
  | info
  | debug
deriving DecidableEq, Repr

def Severity.name : Severity → String
  | .error => "ERROR"
  | .warn => "WARN"
  | .info => "INFO"
  | .debug => "DEBUG"

/-- Whether events of a severity are shown to an operator who asks for nothing special. -/
def Severity.isShown (severity : Severity) : Bool := severity != .debug

/-- One line of the log: a message with named details. -/
structure Event where
  severity : Severity
  message : String
  details : List (String × String) := []
deriving DecidableEq, Repr

def Event.line (event : Event) : String :=
  " ".intercalate
    (event.severity.name :: event.message ::
      event.details.map fun detail => detail.1 ++ "=" ++ detail.2)

end ComponentSchema
