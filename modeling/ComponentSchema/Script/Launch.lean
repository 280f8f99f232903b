import ComponentSchema.Compiler.Basic
import ComponentSchema.Script.Run

/-!
Starting programs from outside of scripts.  A path with a slash leads to an installed tool or to an
executable script; a bare name is one of the tools every system has.

What is proved of a pass holds of every launcher; this is the one that the program itself runs with.
-/

namespace ComponentSchema.Script

/-- The variables that programs get to see from the start. -/
def firstEnvironment : List (String × String) :=
  [("HOME", "/root"), ("PATH", "/usr/local/sbin:/usr/local/bin:/usr/sbin:/usr/bin:/sbin:/bin")]

/-- The place where programs are started: nothing can be read, and what is printed is kept. -/
def Machine.outermost (files : FileSystem) : Machine :=
  { files
    name := []
    bindings := firstEnvironment.foldl (fun bindings (name, value) =>
      bindings.insert name { value := some value.toList, exported := true }) ∅
    streams := #[.nothing, .collected [], .collected []]
    descriptors := [(0, 0), (1, 1), (2, 2)]
    reader := { rest := [] } }

def startOf (machine : Machine) (path : Path) (arguments : List String) :
    Except IoError Start := do
  let name := Text.ofString path
  if !path.toList.contains '/' && path.utf8ByteSize > FileSystem.maxNameBytes then
    throw .nameTooLong
  let found ← if path = "." ∨ path = ".." then throw .permissionDenied
    else machine.programPath name
  Start.ofPath machine.files machine.directory Start.depthLimit name found
    (arguments.map Text.ofString)

/-- Starts a program and waits for it. -/
def launch : Launcher := fun path arguments files => do
  if (path :: arguments).any fun text => text.toList.contains '\x00' then
    throw .nulInArgument
  let machine := Machine.outermost files
  let found ← startOf machine path arguments
  let (ended, after) :=
    Action.runStart (Action.run Action.stepSupply) Action.runnerLimit found machine
  let printed := fun (number : Nat) =>
    match after.stream? number with
    | some (.collected parts) => Text.toBytes parts.reverse.flatten
    | _ => ByteArray.empty
  let code : Option Int := match ended with
    | .ok (.status status) => some status
    | .ok (.signal _) | .error _ => none
  pure (⟨code, printed 1, printed 2⟩, after.files)

end ComponentSchema.Script
