import ComponentSchema.Script.Expansion
import ComponentSchema.Script.Opening

/-!
Redirections.  The words of all of them are filled in before the first one takes effect.
-/

namespace ComponentSchema.Script

/-- Where a stream is to go, with all words filled in. -/
inductive Route where
  | file (stream : Nat) (mode : OpenMode) (path : Text)
  /-- From a text that stands in the script. -/
  | document (stream index : Nat)
  /-- Where another stream goes. -/
  | same (stream other : Nat)
  /-- Nowhere: the stream is closed. -/
  | closed (stream : Nat)
deriving DecidableEq, Repr

namespace Action

/-- Answers whether work ends without a fault of the script. -/
def succeeds (work : Action Unit) : Action Bool := fun machine =>
  match work machine with
  | (.ok (), after) => (.ok true, after)
  | (.error .failed, after) => (.ok false, after)
  | (.error halt, after) => (.error halt, after)

def routeOf (runner : Runner) : Redirection → Action Route
  | .file stream mode path => do pure (.file stream mode (← Word.expandText runner path))
  | .document stream index => pure (.document stream index)
  | .join stream other => do
    match ← Word.expandText runner other with
    | ['-'] => pure (.closed stream)
    | [digit] => do
      if digit.isDigit then pure (.same stream (digit.toNat - '0'.toNat))
      else failOver (← get).reader.line .badStream
    | _ => failOver (← get).reader.line .badStream

/-- Sends a stream somewhere: whether that worked. -/
def follow (runner : Runner) : Route → Action Bool
  | .file stream mode path => openFile stream mode path
  | .document stream index =>
    succeeds do
      let word := ((← get).reader.documents[index]?).getD []
      let text ← Word.expandText runner word
      modify fun machine => machine.addStream stream (.supply text)
  | .same stream other => joinStream stream other
  | .closed stream => do
    modify fun machine => machine.detach stream
    pure true

/-- Sends streams somewhere, in order, until one fails: whether none did. -/
def followAll (runner : Runner) : List Route → Action Bool
  | [] => pure true
  | route :: rest => do
    if ← follow runner route then followAll runner rest else pure false

/-- Redirects streams: whether that worked. -/
def redirect (runner : Runner) (redirections : List Redirection) : Action Bool := do
  followAll runner (← redirections.mapM (routeOf runner))

end Action

end ComponentSchema.Script
