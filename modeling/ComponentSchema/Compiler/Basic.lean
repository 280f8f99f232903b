import ComponentSchema.Compiler.Invocation
import ComponentSchema.Event
import ComponentSchema.Text.Utf8

/-!
Compilers: what turns a schema tree into a descriptor.  A compiler may do to files what it likes; a
pass only looks at what it reports and at the descriptor afterwards.
-/

namespace ComponentSchema

/-- What a compiler printed. -/
structure CompileOutput where
  stdout : String
  stderr : String
deriving DecidableEq, Repr

/-- Why a compilation failed. -/
inductive CompileError where
  | file (failure : FileFailure)
  | notStarted (exe : Path) (reason : IoError)
  /-- The compiler reported failure, or was ended by a signal and has no code. -/
  | failed (code : Option Int) (output : CompileOutput)
deriving DecidableEq, Repr

def CompileError.message : CompileError → String
  | .file failure => failure.message
  | .notStarted exe reason => s!"failed to start schema compiler '{exe}': " ++ reason.message
  | .failed code output =>
    "schema compiler exited with " ++
      (match code with
      | some code => "code " ++ toString code
      | none => "a signal") ++
      ":\n" ++ output.stderr

/-- A compilation that is over. -/
structure Compilation where
  result : Except CompileError CompileOutput
  files : FileSystem
  events : List Event := []

/-- Something that compiles schema. -/
abbrev Compiler := CompilerSettings → FileSystem → Compilation

/-- How a program ended, with what it printed. -/
structure ProgramEnd where
  /-- The exit code, unless a signal ended the program. -/
  code : Option Int
  stdout : ByteArray
  stderr : ByteArray

/-- Something that starts programs by their paths and waits for them. -/
abbrev Launcher := Path → List String → FileSystem → Except IoError (ProgramEnd × FileSystem)

namespace Compiler

/-- What a program's end means for a compilation. -/
def ofEnd (ended : ProgramEnd) (files : FileSystem) : Compilation :=
  let output : CompileOutput := ⟨Utf8.decode ended.stdout, Utf8.decode ended.stderr⟩
  if ended.code = some 0 then
    { result := .ok output, files,
      events := [⟨.info, "schema compiler succeeded: " ++ output.stdout, []⟩] }
  else
    { result := .error (.failed ended.code output), files,
      events := [⟨.error, "schema compiler failed: " ++ output.stderr, []⟩] }

/-- Runs the executable of the settings and waits for it. -/
def launch (launcher : Launcher) (settings : CompilerSettings) (files : FileSystem) :
    Compilation :=
  let running : Event := ⟨.info, "running " ++ settings.commandLine, []⟩
  match launcher settings.exe settings.args files with
  | .error reason =>
    { result := .error (.notStarted settings.exe reason), files, events := [running] }
  | .ok (ended, after) =>
    let compilation := ofEnd ended after
    { compilation with events := running :: compilation.events }

/-- The compiler that runs the executable of the settings, once its output directory is ready. -/
def process (launcher : Launcher) : Compiler := fun settings files =>
  match settings.prepareOutput files with
  | (.error failure, after) => { result := .error (.file failure), files := after }
  | (.ok (), ready) => launch launcher settings ready

end Compiler

end ComponentSchema
