/-!
The stages of a pass.  A pass walks them in order, and may fail from any that is not an end.
-/

namespace ComponentSchema

/-- Where a pass stands. -/
inductive Stage where
  | idle
  | loading
  | discovering
  | validating
  | emitting
  | compiling
  | persisting
  | done
  | failed
deriving DecidableEq, Repr, Inhabited

namespace Stage

/-- All stages, in the order of a pass. -/
def all : List Stage :=
  [.idle, .loading, .discovering, .validating, .emitting, .compiling, .persisting, .done, .failed]

/-- The name shown to people. -/
def name : Stage → String
  | .idle => "Idle"
  | .loading => "Loading"
  | .discovering => "Discovering"
  | .validating => "Validating"
  | .emitting => "Emitting"
  | .compiling => "Compiling"
  | .persisting => "Persisting"
  | .done => "Done"
  | .failed => "Failed"

def parse? (text : String) : Option Stage := all.find? fun stage => stage.name == text

def isTerminal : Stage → Bool
  | .done | .failed => true
  | _ => false

/-- The stage that follows when all goes well; an end is followed by itself. -/
def successor : Stage → Stage
  | .idle => .loading
  | .loading => .discovering
  | .discovering => .validating
  | .validating => .emitting
  | .emitting => .compiling
  | .compiling => .persisting
  | .persisting => .done
  | .done => .done
  | .failed => .failed

/-- Whether a stage may be followed by another within one pass. -/
def canEnter (stage next : Stage) : Bool :=
  match next with
  | .failed => !stage.isTerminal
  | .idle => false
  | next => stage.successor == next

end Stage

end ComponentSchema
