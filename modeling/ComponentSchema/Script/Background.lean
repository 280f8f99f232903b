import ComponentSchema.Script.Machine

/-!
Commands in the background, and the time that passes.  Only waiting takes time.  A command in the
background begins a little later than what the script itself does next, and what it does is taken to
happen when it ends: when the script waits for it, sleeps long enough, or starts other programs in
the meantime.
-/

namespace ComponentSchema.Script

namespace Machine

/-- What a command in the background leaves behind, if it ends before some time. -/
def aftermath? (machine : Machine) (deadline : Option Nat) (job : Waiting) : Option Aftermath :=
  let after := job.work deadline machine.files machine.streams
  if after.isCut then none else some after

/-- Whether a command in the background was begun by the script itself, and not by one around it. -/
def owns (machine : Machine) (number : Nat) : Bool := machine.inherited < number

/-- The script after the work of a command in the background. -/
def settled (machine : Machine) (job : Waiting) (after : Aftermath) : Machine :=
  { machine with
    files := after.files
    streams := after.streams
    waiting := machine.waiting.filter fun other => other.number != job.number
    jobs := (job.number, after.status) :: machine.jobs }

/-- The script after what was done apart from it: what that did to files and streams lasts, and the
commands in the background that have ended meanwhile. -/
def rejoined (machine after : Machine) : Machine :=
  { machine with
    files := after.files
    streams := after.streams
    clock := after.clock
    launched := after.launched
    waiting := after.waiting
    jobs := after.jobs.filter fun job => !after.owns job.1 }

end Machine

namespace Action

/-- Lets the commands in the background end that do so before some time, in order. -/
def settleBefore (deadline : Option Nat) (isMeant : Waiting → Bool) : Action Unit := do
  let machine ← get
  let due := (machine.waiting.filter isMeant).filterMap fun job =>
    (machine.aftermath? deadline job).map fun after => (after.ended, job)
  for (_, job) in due.mergeSort fun first second => first.1 ≤ second.1 do
    modify fun machine =>
      machine.settled job (job.work deadline machine.files machine.streams)

/-- Lets the commands in the background end that are quicker than starting a program. -/
def settleQuick : Action Unit := do
  let machine ← get
  if !machine.waiting.isEmpty then settleBefore (some (machine.clock + 1)) fun _ => true

/-- Lets time pass.  The script is ended if that takes it to its deadline. -/
def pass (time : Nat) : Action Unit := do
  let moment := (← get).clock + time
  settleBefore (some (moment + 1)) fun _ => true
  match (← get).deadline? with
  | some deadline =>
    if deadline ≤ moment then
      modify fun machine => { machine with clock := deadline }
      throw (.killed 15)
  | none => pure ()
  modify fun machine => { machine with clock := moment }

/-- Waits for some of the script's own commands in the background. -/
def awaitJobs (isMeant : Nat → Bool) : Action Unit := do
  let machine ← get
  let meant := machine.waiting.filter fun job => machine.owns job.number && isMeant job.number
  let ends := meant.filterMap fun job =>
    (machine.aftermath? machine.deadline? job).map Aftermath.ended
  let last := ends.foldl max machine.clock
  settleBefore (some (last + 1)) fun _ => true
  if ends.length < meant.length then
    modify fun machine => { machine with clock := machine.deadline?.getD machine.clock }
    throw (.killed 15)
  modify fun machine => { machine with clock := last }

end Action

end ComponentSchema.Script
