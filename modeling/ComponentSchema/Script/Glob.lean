import ComponentSchema.Files.FileSystem
import ComponentSchema.Script.Pattern

/-!
The paths that a pattern stands for.
-/

namespace ComponentSchema.Script

namespace FileSystem

def namesIn (files : FileSystem) (location : Location) : List String :=
  files.entries.keys.filterMap fun other =>
    if !other.isEmpty && other.dropLast == location then other.getLast? else none

end FileSystem

namespace Glob

/-- The parts of a pattern between slashes. -/
def parts : Text → List Text
  | [] => [[]]
  | '/' :: rest => [] :: parts rest
  | '\\' :: '/' :: rest => [] :: parts rest
  | '\\' :: char :: rest =>
    match parts rest with
    | [] => [['\\', char]]
    | part :: others => ('\\' :: char :: part) :: others
  | char :: rest =>
    match parts rest with
    | [] => [[char]]
    | part :: others => (char :: part) :: others

/-- Whether a part has items that are more than characters. -/
def isActive (part : Text) : Bool :=
  (Pattern.items part).any fun item => match item with
    | .literal _ => false
    | _ => true

/-- The text of a part without items that are more than characters. -/
def plain (part : Text) : Text :=
  (Pattern.items part).filterMap fun item => match item with
    | .literal char => some char
    | _ => none

def pathFrom (directory : Location) (text : Text) : Path :=
  let path := Text.asString text
  if directory.isEmpty || path.isEmpty || Path.isAbsolute path then path
  else "/".intercalate directory ++ "/" ++ path

/-- The names in a directory that a part stands for.  A dot in front has to be written. -/
def namesFor (files : FileSystem) (directory : Location) (front part : Text) : List Text :=
  let path := pathFrom directory (if front.isEmpty then ['.'] else front)
  match files.stat path with
  | .ok (location, { content := .directory, .. }) =>
    let names := ['.'] :: ['.', '.'] :: (FileSystem.namesIn files location).map Text.ofString
    let items := Pattern.items part
    let showsDots := match items with
      | .literal '.' :: _ => true
      | _ => false
    names.filter fun name => (showsDots || name.head? != some '.') && Pattern.fitsItems items name
  | _ => []

/-- The paths that parts stand for behind what is in front of them. -/
def pathsFrom (files : FileSystem) (directory : Location) (front : Text) : List Text → List Text
  | [] => []
  | [last] =>
    if isActive last then (namesFor files directory front last).map (front ++ ·)
    else
      let path := front ++ plain last
      if files.pathExists (pathFrom directory path) then [path] else []
  | part :: rest =>
    if isActive part then
      (namesFor files directory front part).flatMap fun name =>
        pathsFrom files directory (front ++ name ++ ['/']) rest
    else pathsFrom files directory (front ++ plain part ++ ['/']) rest

/-- The paths that a pattern stands for, in order; none if it is only text. -/
def paths (files : FileSystem) (directory : Location) (pattern : Text) : List Text :=
  let parts := parts pattern
  if parts.any isActive then (pathsFrom files directory [] parts).mergeSort Text.precedes else []

end Glob

end ComponentSchema.Script
