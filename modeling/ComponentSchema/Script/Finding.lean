import ComponentSchema.Script.Opening
import ComponentSchema.Script.Program
import ComponentSchema.Script.Tool.FileTests
import ComponentSchema.Script.Tool.Running

/-!
Looking for files.  The paths below some others are tested one after the other, and what is to be
done with those that are found is done on the way.
-/

namespace ComponentSchema.Script

/-- How a program ended. -/
inductive Ending where
  | status (value : Nat)
  | signal (number : Nat)
deriving DecidableEq, Repr

namespace Action

open Tool

/-- What runs a command: how it ended, or why it could not be started. -/
abbrev CommandRunner := List Text → Action (Except IoError Ending)

/-- Where looking for files stands. -/
structure Finding where
  /-- The commands that are run for all paths together, with these paths, the latest first. -/
  gathered : List (List Text × List Text) := []
  isFine : Bool := true
  /-- Whether the directory that is tested is not entered. -/
  isPruned : Bool := false
  isEnded : Bool := false

/-- Adds a path to those that a command is run for. -/
def Finding.gather (finding : Finding) (command : List Text) (path : Text) : Finding :=
  if finding.gathered.any fun entry => entry.1 == command then
    { finding with
      gathered := finding.gathered.map fun entry =>
        if entry.1 == command then (entry.1, path :: entry.2) else entry }
  else { finding with gathered := finding.gathered ++ [(command, [path])] }

/-- Reports something about files that are looked for. -/
def complainAs (name text : Text) : Action Unit := write 2 (name ++ ": ".toList ++ text ++ ['\n'])

/-- Removes what a path leads to: whether that worked. -/
def removeFound (name : Text) (candidate : Candidate) : Action Bool := do
  let machine ← get
  if candidate.path = ['.'] then pure true
  else if machine.files.isOccupied candidate.location || candidate.location.isEmpty then
    complainAs name ("cannot delete ".toList ++ Quoting.enclosedWord candidate.path ++
      ": Directory not empty".toList)
    pure false
  else
    set { machine with files := machine.files.removeAt candidate.location }
    pure true

/-- Runs a command for a path: whether it ended well. -/
def runForEach (runner : CommandRunner) (name : Text) (candidate : Candidate)
    (command : List Text) (isInPlace : Bool) : Action Bool := do
  let path := if isInPlace then "./".toList ++ candidate.name else candidate.path
  let words := command.map fun word => filledIn "\x7b\x7d".toList path word.length word
  let before := (← get).directory
  if isInPlace then
    modify fun machine => { machine with directory := candidate.location.dropLast }
  let result ← always (runner words) fun machine => { machine with directory := before }
  match result with
  | .ok ended => pure (ended == .status 0)
  | .error reason => do
    complainAs name (Quoting.enclosedWord (words.headD []) ++ ": ".toList ++ plainReason reason)
    pure false

/-- Whether a path passes a test, after what is done with it on the way. -/
def passes (runner : CommandRunner) (name : Text) (candidate : Candidate) :
    Test → Finding → Action (Bool × Finding)
  | .name pattern folds, finding =>
    let fold := fun (text : Text) => if folds then text.map Char.toLower else text
    pure (Pattern.fitsText (fold pattern) (fold candidate.name), finding)
  | .whole pattern folds, finding =>
    let fold := fun (text : Text) => if folds then text.map Char.toLower else text
    pure (Pattern.fitsText (fold pattern) (fold candidate.path), finding)
  | .matching search, finding => pure (search.wants candidate.path, finding)
  | .kind letters, finding =>
    pure (letters.contains (if candidate.isDirectory then 'd' else 'f'), finding)
  | .empty, finding => do
    let files := (← get).files
    pure (if candidate.isDirectory then !files.isOccupied candidate.location
      else candidate.size == 0, finding)
  | .executable, finding =>
    pure (candidate.isDirectory || candidate.entry.mode.isExecutable, finding)
  | .size comparison count unit, finding =>
    pure (comparison.holds count ((candidate.size + unit - 1) / unit), finding)
  | .mode test, finding =>
    let mode : Nat := candidate.entry.mode
    let holds := match test with
      | .exactly told => mode == told
      | .all told => mode &&& told == told
      | .any told => told == 0 || mode &&& told != 0
    pure (holds, finding)
  | .same path, finding => do
    let machine ← get
    let other? := (machine.files.stat (machine.path path)).toOption
    pure (other?.any fun other => other.1 == candidate.location, finding)
  | .always holds, finding => pure (holds, finding)
  | .printed after, finding => do
    write 1 (candidate.path ++ after)
    pure (true, finding)
  | .formatted format, finding => do
    write 1 (candidate.filled (format.length + 1) format)
    pure (true, finding)
  | .pruned, finding => pure (true, { finding with isPruned := true })
  | .removed, finding => do
    let isGone ← removeFound name candidate
    pure (isGone, { finding with isFine := finding.isFine && isGone })
  | .ended, finding => pure (true, { finding with isEnded := true })
  | .each command isInPlace, finding => do
    pure (← runForEach runner name candidate command isInPlace, finding)
  | .together command, finding => pure (true, finding.gather command candidate.path)
  | .least _, finding | .most _, finding | .innerFirst, finding => pure (true, finding)
  | .negation test, finding => do
    let (holds, finding) ← passes runner name candidate test finding
    pure (!holds, finding)
  | .both first second, finding => do
    let (holds, finding) ← passes runner name candidate first finding
    if holds && !finding.isEnded then passes runner name candidate second finding
    else pure (holds, finding)
  | .either first second, finding => do
    let (holds, finding) ← passes runner name candidate first finding
    if holds || finding.isEnded then pure (true, finding)
    else passes runner name candidate second finding
  | .last first second, finding => do
    let (_, finding) ← passes runner name candidate first finding
    if finding.isEnded then pure (true, finding)
    else passes runner name candidate second finding

/-- The paths right below one. -/
def childrenOf (files : FileSystem) (parent : Candidate) : List Candidate :=
  (files.entries.entries.filter fun entry =>
    entry.1.length = parent.location.length + 1 && parent.location.isPrefixOf entry.1).map
      fun entry =>
        { parent with
          path := Tool.inside parent.path (Text.ofString (entry.1.getLastD ""))
          location := entry.1, entry := entry.2, depth := parent.depth + 1 }

/-- Tests a path and those below it, which are at most so deep. -/
def look (runner : CommandRunner) (name : Text) (test : Test) :
    Nat → Candidate → Finding → Action Finding
  | 0, _, finding => pure finding
  | fuel + 1, candidate, finding => do
    let isTested := test.leastDepth ≤ candidate.depth
    let check := fun (finding : Finding) => do
      if isTested && !finding.isEnded then pure (← passes runner name candidate test finding).2
      else pure finding
    let enter := fun (finding : Finding) => do
      if !candidate.isDirectory || finding.isEnded || finding.isPruned ||
          test.mostDepth?.any (· ≤ candidate.depth) then pure finding
      else if !(← get).files.isDirectoryAt candidate.location then
        complainAs name
          (Quoting.enclosedWord candidate.path ++ ": No such file or directory".toList)
        pure { finding with isFine := false }
      else
        (childrenOf (← get).files candidate).foldlM (fun finding child =>
          look runner name test fuel child { finding with isPruned := false }) finding
    let finding := { finding with isPruned := false }
    let finding ← if test.isInnerFirst then do check (← enter finding)
      else do enter (← check finding)
    pure { finding with isPruned := false }

/-- How deep directories may lie in one another. -/
def deepest : Nat := 4096

/-- Looks for files: the status. -/
def findFiles (runner : CommandRunner) (name : Text) (arguments : List Text) : Action Nat := do
  match FileSearch.ofArguments arguments with
  | .error text => do
    complainAs name text
    pure 1
  | .ok search => do
    for warning in search.warnings do complainAs name ("warning: ".toList ++ warning)
    let finding ← search.starts.foldlM (fun (finding : Finding) path => do
      let machine ← get
      if finding.isEnded then pure finding
      else
        match machine.files.stat (machine.path path) with
        | .error reason => do
          complainAs name (Quoting.enclosedWord path ++ ": ".toList ++ plainReason reason)
          pure { finding with isFine := false }
        | .ok (location, entry) =>
          look runner name search.test deepest ⟨path, path, location, entry, 0⟩ finding) {}
    let results ← finding.gathered.mapM fun (command, paths) => do
      let words := command ++ paths.reverse
      match ← runner words with
      | .ok ended => pure (ended == .status 0)
      | .error reason => do
        complainAs name
          (Quoting.enclosedWord (words.headD []) ++ ": ".toList ++ plainReason reason)
        pure false
    pure (if finding.isFine && results.all id then 0 else 1)

end Action

end ComponentSchema.Script
