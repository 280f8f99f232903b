import ComponentSchema.CommandLine.Arguments
import ComponentSchema.Pass.Run

/-!
A generation pass as it is asked for on the command line.
-/

namespace ComponentSchema

/-- The file that settings are looked for in when none is named. -/
def Settings.usualFile : Path := "schemagen.toml"

namespace GenerateArguments

/-- The settings of the named file, or of the usual one, or the defaults where that is missing. -/
def readSettings (arguments : GenerateArguments) : PassTask Settings := do
  let files := (← get).files
  match arguments.config with
  | some path => PassTask.ofExcept .settings (Settings.load files path)
  | none =>
    if files.isFile Settings.usualFile then
      PassTask.ofExcept .settings (Settings.load files Settings.usualFile)
    else do
      PassTask.tell [⟨.info, "no " ++ Settings.usualFile ++ " found, using defaults", []⟩]
      pure (Settings.defaultsAt ".")

/-- The settings with the arguments for the compiler that were given. -/
def override (arguments : GenerateArguments) (settings : Settings) : Settings :=
  match arguments.additionalArgs with
  | none => settings
  | some extra => { settings with compiler.additionalArgs := some extra }

/-- What is told at the end of a pass that succeeded. -/
def summary (report : Report) : List Event :=
  (if report.clashes.isEmpty then []
    else [⟨.warn, "some schema names were suffixed to avoid collisions",
      [("groups", toString report.clashes.length)]⟩]) ++
    [⟨.info, "schema generated",
      [("classes", toString report.classes), ("skipped", toString report.skipped),
        ("levels", toString report.levelComponents),
        ("distances", toString report.distanceComponents),
        ("new_ids", toString report.newIds), ("watermark", report.nextId.text)]⟩]

/-- Runs the pass that was asked for.  Paths that were seen while cooking arrive the way a host's
notifications would. -/
def run (arguments : GenerateArguments) (launcher : Launcher) : PassTask Report := do
  let settings := arguments.override (← arguments.readSettings)
  if settings.needsFullScan (← get).files ∧ !arguments.reset then
    PassTask.tell [⟨.info, "no previous generation found, running a full scan", []⟩]
  let manifest ← PassTask.ofExcept .source (Manifest.load (← get).files arguments.types)
  let queue := manifest.cooked.foldl (fun queue path => queue.notify path) CandidateQueue.empty
  modify fun generator => { generator with queue := some queue }
  let plan : Plan := ⟨settings, manifest.source, .process launcher⟩
  let report ← plan.run arguments.reset
  PassTask.tell (summary report)
  pure report

end GenerateArguments

end ComponentSchema
