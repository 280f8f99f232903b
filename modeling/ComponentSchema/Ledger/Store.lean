import ComponentSchema.Files.Failure
import ComponentSchema.Ledger.Encoding
import ComponentSchema.Ledger.Integrity

/-!
The file a ledger is kept in.  Reading it answers with a ledger to build on, or with the reason for
a fresh start; saving replaces the file as a whole, so a save that fails leaves it as it was.
-/

namespace ComponentSchema

/-- Why a stored ledger cannot be used or replaced. -/
inductive StoreError where
  | readOnly (path : Path)
  | corrupt (path : Path) (findings : Findings LedgerFault)
  | file (failure : FileFailure)

def StoreError.message : StoreError → String
  | .readOnly path => s!"schema database '{path}' is read-only; make it writable to continue"
  | .corrupt path findings =>
    s!"schema database '{path}' is inconsistent:\n" ++ findings.render LedgerFault.message
  | .file failure => failure.message

/-- Why a pass starts from a fresh ledger.  An unreadable one is told without the words that the system
or the decoder has for it. -/
inductive ResetReason where
  | missing
  | unreadable
  | stale
  | requested
deriving DecidableEq, Repr

def ResetReason.message : ResetReason → String
  | .missing => "no database on disk"
  | .unreadable => "database could not be read"
  | .stale => "database predates persistent id allocation"
  | .requested => "reset requested"

/-- What reading a stored ledger led to. -/
inductive LoadOutcome where
  | loaded (ledger : Ledger)
  | reset (reason : ResetReason)
deriving DecidableEq

namespace LoadOutcome

def ledger : LoadOutcome → Ledger
  | .loaded ledger => ledger
  | .reset _ => .fresh

/-- The reason for a fresh start, if it is one. -/
def reset? : LoadOutcome → Option ResetReason
  | .loaded _ => none
  | .reset reason => some reason

end LoadOutcome

/-- The place a ledger is kept at. -/
structure LedgerStore where
  path : Path
deriving DecidableEq, Repr

namespace LedgerStore

def isPresent (store : LedgerStore) (files : FileSystem) : Bool := files.isFile store.path

def isReadOnly (store : LedgerStore) (files : FileSystem) : Bool := files.isReadOnly store.path

def read? (store : LedgerStore) (files : FileSystem) : Option Ledger :=
  (files.read store.path).toOption.bind Ledger.ofBytes?

/-- Reads the ledger, or says why to start afresh.  A file that is read-only or inconsistent is an
error: all work would be lost when it is to be saved, or an id might be handed out twice. -/
def load (store : LedgerStore) (files : FileSystem) : Except StoreError LoadOutcome :=
  if !store.isPresent files then .ok (.reset .missing)
  else if store.isReadOnly files then .error (.readOnly store.path)
  else
    match store.read? files with
    | none => .ok (.reset .unreadable)
    | some ledger =>
      if ledger.isStale then .ok (.reset .stale)
      else
        match ledger.checkIntegrity with
        | .ok () => .ok (.loaded ledger)
        | .error findings => .error (.corrupt store.path findings)

/-- The temporary file that stands beside the ledger while it is saved. -/
def temporary (store : LedgerStore) : Path :=
  store.path.withFileName ((store.path.fileName?.getD "") ++ ".tmp")

def bytesOf (ledger : Ledger) : ByteArray := (ledger.text ++ "\n").toUTF8

/-- Creates the directory a store lies in, if its path names one. -/
def createParent (store : LedgerStore) : FileTask Unit :=
  match store.path.parent? with
  | none => pure ()
  | some parent =>
    if parent.isEmpty then pure ()
    else (FileAction.createDirectories parent).reporting "create" parent

def replaceWith (store : LedgerStore) (ledger : Ledger) : FileTask Unit := do
  store.createParent
  FileTask.replace store.path store.temporary (bytesOf ledger) "write" "replace"

/-- Work on files that is refused where the store is read-only. -/
def whenWritable (store : LedgerStore) (work : FileTask Unit) :
    ExceptT StoreError (StateM FileSystem) Unit := fun files =>
  if store.isReadOnly files then (.error (.readOnly store.path), files)
  else
    match work files with
    | (.ok (), after) => (.ok (), after)
    | (.error failure, after) => (.error (.file failure), after)

def save (store : LedgerStore) (ledger : Ledger) : ExceptT StoreError (StateM FileSystem) Unit :=
  store.whenWritable (store.replaceWith ledger)

/-- Removes the stored ledger; one that is not there is fine. -/
def delete (store : LedgerStore) : ExceptT StoreError (StateM FileSystem) Unit := fun files =>
  if store.isPresent files then
    store.whenWritable ((FileAction.removeFile store.path).reporting "delete" store.path) files
  else (.ok (), files)

end LedgerStore

end ComponentSchema
