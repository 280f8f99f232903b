import ComponentSchema.Script.Machine
import ComponentSchema.Script.Standing
import ComponentSchema.Script.Tool.Installed

/-!
Finding programs.  A path leads to an installed tool or to a file; a file tells in its first line
which program runs it, and that one may be a file again.
-/

namespace ComponentSchema.Script

/-- A tool that is started. -/
structure Start where
  tool : Text
  /-- What the tool is called as. -/
  name : Text
  arguments : List Text

/-- What the first line of a file says about how to run it. -/
structure Interpreter where
  program : Text
  /-- All that follows the program, as one argument. -/
  argument? : Option Text

namespace Interpreter

/-- A character that divides the first line of a script. -/
def isDivider (char : Char) : Bool := char == ' ' || char == '\t'

/-- How a file is to be run, if its first line tells. -/
def ofText? (text : Text) : Option Interpreter :=
  match text with
  | '#' :: '!' :: rest =>
    let line := (rest.takeWhile (· != '\n')).dropWhile isDivider
    let line := (line.reverse.dropWhile isDivider).reverse
    let program := line.takeWhile fun char => !isDivider char
    let argument := (line.drop program.length).dropWhile isDivider
    if program.isEmpty then none
    else some ⟨program, if argument.isEmpty then none else some argument⟩
  | _ => none

end Interpreter

namespace Start

def depthLimit : Nat := 6

def ofPath (files : FileSystem) (directory : Location) :
    Nat → Text → Text → List Text → Except IoError Start
  | 0, _, _, _ => .error .tooManyLevels
  | count + 1, name, path, arguments => do
    match Standing.toolAt? path with
    | some tool => pure ⟨tool, name, arguments⟩
    | none =>
      if Standing.isDirectoryAt path then throw .permissionDenied
      match (← files.stat (Glob.pathFrom directory path)).2 with
      | { content := .file bytes, mode } =>
        if !mode.isExecutable then throw .permissionDenied
        match Interpreter.ofText? (Text.ofBytes bytes) with
        | none => throw .invalidExecutable
        | some found =>
          ofPath files directory count found.program found.program
            (found.argument?.toList ++ path :: arguments)
      | _ => throw .permissionDenied

/-- A file without a first line that tells what runs it, run by a shell. -/
def ofScript (path : Text) (arguments : List Text) : Start :=
  ⟨"sh".toList, "/bin/sh".toList, path :: arguments⟩

end Start

namespace Machine

/-- The directories that programs and scripts are looked for in. -/
def searchPath (machine : Machine) : List Text :=
  match machine.value? "PATH".toList with
  | some text => Text.splitAt ':' text
  | none => []

/-- The path of a name in a directory, which may be told by no name at all. -/
def pathIn (directory name : Text) : Text :=
  if directory.isEmpty then name else directory ++ '/' :: name

/-- The path of the program with a name in some directories; the reason of the last failure is
kept. -/
def programIn (machine : Machine) (name : Text) (problem : IoError) :
    List Text → Except IoError Text
  | [] => .error problem
  | directory :: rest =>
    let path := pathIn directory name
    if (Standing.toolAt? path).isSome then .ok path
    else
      match machine.files.stat (machine.path path) with
      | .ok (_, { content := .file _, mode }) =>
        if mode.isExecutable then .ok path
        else machine.programIn name .permissionDenied rest
      | .ok _ => machine.programIn name .permissionDenied rest
      | .error _ => machine.programIn name problem rest

/-- The path of a program: a name is looked for, and a text with a slash is a path. -/
def programPath (machine : Machine) (name : Text) : Except IoError Text :=
  if name.contains '/' then .ok name
  else if name.isEmpty then .error .notFound
  else machine.programIn name .notFound machine.searchPath

end Machine

end ComponentSchema.Script
