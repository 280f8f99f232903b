import ComponentSchema.Files.FileSystem

/-!
Failures of file work, told with what was attempted and where.
-/

namespace ComponentSchema

/-- A file operation that failed, with what it was for. -/
structure FileFailure where
  action : String
  path : Path
  reason : IoError
deriving DecidableEq, Repr

def FileFailure.message (failure : FileFailure) : String :=
  "failed to " ++ failure.action ++ " '" ++ failure.path ++ "': " ++ failure.reason.message

/-- Work on files with failures that say what they were for. -/
abbrev FileTask (α : Type) := ExceptT FileFailure (StateM FileSystem) α

def FileAction.reporting {α : Type} (work : FileAction α) (action : String)
    (path : Path) : FileTask α :=
  fun files =>
    match work files with
    | (.ok value, after) => (.ok value, after)
    | (.error reason, after) => (.error ⟨action, path, reason⟩, after)

/-- Makes a directory exist and be empty. -/
def FileTask.freshDirectory (path : Path) (clearing creating : String) : FileTask Unit := do
  if (← get).pathExists path then (FileAction.removeDirectory path).reporting clearing path
  (FileAction.createDirectories path).reporting creating path

/-- Removes a file that is not wanted after all; if that fails, nothing more can be done. -/
def FileTask.discard (path : Path) : FileTask Unit := fun files =>
  (.ok (), (FileAction.removeFile path files).2)

/-- Replaces a file by way of a temporary one beside it, so that the file is never half written.
When it cannot be replaced, the temporary file is removed again. -/
def FileTask.replace (path temporary : Path) (bytes : ByteArray) (writing replacing : String) :
    FileTask Unit :=
  tryCatch
    (do (FileAction.writeSynced temporary bytes).reporting writing temporary
        (FileAction.rename temporary path).reporting replacing path)
    fun failure => do
      discard temporary
      throw failure

end ComponentSchema
