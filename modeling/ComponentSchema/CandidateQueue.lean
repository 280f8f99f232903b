import ComponentSchema.SortedMap

/-!
Candidates the host came across while it enumerated or cooked assets.  Only their paths are queued;
what they stand for is looked up when a pass drains the queue.
-/

namespace ComponentSchema

/-- A queue of paths.  Once it is closed, notifications are lost without harm. -/
inductive CandidateQueue where
  | listening (paths : List String)
  | closed
deriving DecidableEq, Repr, Inhabited

namespace CandidateQueue

/-- A queue that holds nothing yet. -/
def empty : CandidateQueue := .listening []

def notify (path : String) : CandidateQueue → CandidateQueue
  | .listening paths => .listening (paths ++ [path])
  | .closed => .closed

/-- How many notifications wait, repeats included. -/
def pending? : CandidateQueue → Option Nat
  | .listening paths => some paths.length
  | .closed => none

/-- The paths that wait, each once and in ascending order. -/
def waiting : CandidateQueue → List String
  | .listening paths => (SortedSet.ofList paths).keys
  | .closed => []

def drained : CandidateQueue → CandidateQueue
  | .listening _ => .listening []
  | .closed => .closed

end CandidateQueue

end ComponentSchema
