import ComponentSchema.Script.Calling

/-!
Running commands.  A command inside another one, a function, or a script uses up one step of a
supply, and so does each turn of a loop; what needs more is taken for something that never ends.
-/

namespace ComponentSchema.Script

namespace Action

/-! ## Loops -/

/-- How a turn of a loop, or of its condition, ended. -/
inductive Turn where
  /-- The next turn follows. -/
  | next
  /-- The loop goes on where it stands. -/
  | whole
  /-- The loop is left. -/
  | last
deriving DecidableEq, Repr

/-- Runs a part of a loop; leaving outer loops goes on outside of this one. -/
def turn (work : Action Unit) : Action Turn := fun machine =>
  let deeper := { machine with loops := machine.loops + 1 }
  let (result, after) := work deeper
  let after := { after with loops := machine.loops }
  match result with
  | .ok () => (.ok .whole, after)
  | .error (.left count) =>
    if count ≤ 1 then (.ok .last, after) else (.error (.left (count - 1)), after)
  | .error (.continued count) =>
    if count ≤ 1 then (.ok .next, after) else (.error (.continued (count - 1)), after)
  | .error halt => (.error halt, after)

def turnSupply : Nat := 1000000

/-- Runs a body as long as a condition ends as wanted; the status is the one of the last turn. -/
def runLoop (runner : Runner) (tested wanted : Bool) (condition body : Command) :
    Nat → Nat → Action Unit
  | 0, _ => throw (.killed 9)
  | count + 1, status => do
    match ← turn (runner true condition) with
    | .last => setStatus status
    | .next => runLoop runner tested wanted condition body count status
    | .whole => do
      if ((← get).status == 0) != wanted then setStatus status
      else
        let turn ← turn (runner tested body)
        let status := (← get).status
        if turn ≠ .last then runLoop runner tested wanted condition body count status

def runEach (runner : Runner) (tested : Bool) (name : Text) (body : Command) :
    List Text → Action Unit
  | [] => pure ()
  | word :: rest => do
    assign name word
    let turn ← turn (runner tested body)
    if turn ≠ .last then runEach runner tested name body rest

/-! ## Choices -/

def anyFits (runner : Runner) (text : Text) : List Word → Action Bool
  | [] => pure false
  | word :: rest => do
    if Pattern.fitsText (← Word.expandPattern runner word) text then pure true
    else anyFits runner text rest

/-- Runs the first arm with a pattern that fits. -/
def runArms (runner : Runner) (tested : Bool) (text : Text) :
    List (List Word × Option Command) → Action Unit
  | [] => setStatus 0
  | (patterns, body) :: rest => do
    if ← anyFits runner text patterns then
      match body with
      | some command => runner tested command
      | none => setStatus 0
    else runArms runner tested text rest

/-! ## Commands -/

def setLine (line : Nat) : Action Unit := modify fun machine => { machine with line }

def runRedirected (runner : Runner) (tested : Bool) (line : Nat) (body : Command)
    (redirections : List Redirection) : Action Unit := do
  setLine line
  withStreams id do
    if ← redirect runner redirections then runner tested body else setStatus 2

/-- Runs a command apart.  The words of its redirections are filled in before. -/
def runApart (runner : Runner) (tested : Bool) (line : Nat) (body : Command)
    (redirections : List Redirection) : Action Unit := do
  setLine line
  let routes ← redirections.mapM (routeOf runner)
  settleQuick
  withStreams id do
    inside runner do
      if ← followAll runner routes then runner tested body else setStatus 2

/-- Ends a script after a failure that is not only looked at, if that is wished. -/
def mind (tested : Bool) : Action Unit := do
  let machine ← get
  if machine.has 'e' && !tested && machine.status ≠ 0 then throw .exited

/-- Runs a command whose parts are run by something else. -/
def runParts (runner : Runner) (tested : Bool) : Command → Action Unit
  | .simple line assignments words redirections => do
    runSimple runner tested line assignments words redirections
    runTraps runner
    mind tested
  | .sequence first second => do
    runner tested first
    runner tested second
  | .both first second => do
    runner true first
    if (← get).status = 0 then runner tested second
  | .either first second => do
    runner true first
    if (← get).status ≠ 0 then runner tested second
  | .negate command => do
    runner true command
    setStatus (if (← get).status = 0 then 1 else 0)
  | .pipe commands => do
    runPipe runner tested commands
    mind tested
  | .background command => runBackground runner command
  | .branch condition body otherwise => do
    runner true condition
    if (← get).status = 0 then runner tested body
    else
      match otherwise with
      | some command => runner tested command
      | none => setStatus 0
  | .loop wanted condition body => runLoop runner tested wanted condition body turnSupply 0
  | .each line name words body => do
    setLine line
    let words ← match words with
      | some words => Word.expandAll runner words
      | none => do pure (← get).arguments
    if words.isEmpty then setStatus 0
    runEach runner tested name body words
  | .cases line word arms => do
    setLine line
    let text ← Word.expandText runner word
    runArms runner tested text arms
  | .apart line body redirections => do
    runApart runner tested line body redirections
    runTraps runner
    mind tested
  | .redirected line body redirections => runRedirected runner tested line body redirections
  | .define name body => modify fun machine =>
    { machine with functions := (name, body) :: machine.functions, status := 0 }

/-- Runs a command, with a supply of steps. -/
def run : Nat → Runner
  | 0, _, _ => throw (.killed 11)
  | steps + 1, tested, command => do
    if !(← get).has 'n' then runParts (run steps) tested command

/-- How many commands may stand inside each other. -/
def stepSupply : Nat := 10000

end Action

end ComponentSchema.Script
