import ComponentSchema.Script.Tool.EditScript
import ComponentSchema.Script.Tool.Streams

/-!
Editing lines by scripts.  Each line is taken in turn, the commands that are for it are run on it,
and what has become of it is printed.
-/

namespace ComponentSchema.Script

/-- A line, and whether an end follows it. -/
structure EditLine where
  text : Text := []
  hasEnd : Bool := true

/-- An editor at work. -/
structure Editor where
  /-- The lines that are still to come. -/
  waiting : List EditLine
  number : Nat := 0
  line : EditLine := {}
  kept : EditLine := {}
  /-- The texts that follow the line, the latest first. -/
  following : List Text := []
  /-- Whether something was replaced since the line was taken. -/
  replaced : Bool := false
  /-- The commands whose ranges have begun, with the lines these end at if that is known. -/
  ranges : List (Nat × Option Nat) := []
  lastRegex : Option (Regex × Bool) := none
  /-- What was printed, the latest first. -/
  printed : List Text := []
  /-- Whether the last line that was printed still needs an end. -/
  owesEnd : Bool := false
  /-- What was written to files, the latest first. -/
  written : List (Text × Text) := []
  /-- What can be read from files. -/
  contents : Text → Text
  quiet : Bool

/-- How the commands for a line end. -/
inductive LineEnd where
  | shown
  | dropped
  /-- The commands are run again without taking a line. -/
  | again
  | ended (shows : Bool) (status : Nat)

namespace Editor

/-- Prints a text, after the end that is still needed. -/
def put (editor : Editor) (text : Text) (hasEnd : Bool) : Editor :=
  let text := if hasEnd then text ++ ['\n'] else text
  let text := if editor.owesEnd then '\n' :: text else text
  { editor with printed := text :: editor.printed, owesEnd := !hasEnd }

def putLine (editor : Editor) (line : EditLine) : Editor := editor.put line.text line.hasEnd

/-- Prints a text that has its own ends. -/
def putText (editor : Editor) (text : Text) : Editor :=
  if text.isEmpty then editor
  else
    let text := if editor.owesEnd then '\n' :: text else text
    { editor with printed := text :: editor.printed, owesEnd := false }

/-- Prints the texts that follow the line. -/
def flush (editor : Editor) : Editor :=
  { editor.following.reverse.foldl putText editor with following := [] }

/-- Prints what has become of the line, and what follows it. -/
def finishLine (editor : Editor) : Editor :=
  (if editor.quiet then editor else editor.putLine editor.line).flush

def next? (editor : Editor) : Option (EditLine × Editor) :=
  match editor.waiting with
  | [] => none
  | line :: waiting => some (line, { editor with waiting, number := editor.number + 1 })

/-- The expression that is meant, and the editor that remembers it. -/
def regexOf (editor : Editor) (regex : Option (Regex × Bool)) : Option (Regex × Bool) × Editor :=
  match regex with
  | some regex => (some regex, { editor with lastRegex := some regex })
  | none => (editor.lastRegex, editor)

/-- Whether the line matches an expression. -/
def fits (editor : Editor) (regex : Option (Regex × Bool)) : Bool × Editor :=
  match editor.regexOf regex with
  | (some (regex, folds), editor) =>
    ((Regex.find? regex { chars := editor.line.text.toArray, folds } 0).isSome, editor)
  | (none, editor) => (false, editor)

def isAt (editor : Editor) (address : LineAddress) : Bool × Editor :=
  match address with
  | .number number => (editor.number == number, editor)
  | .last => (editor.waiting.isEmpty, editor)
  | .stepped first step =>
    (if step = 0 then editor.number == first
      else first ≤ editor.number && (editor.number - first) % step == 0, editor)
  | .fits regex => editor.fits regex

/-- Begins the range of a command, which may end at a known line. -/
def beginRange (editor : Editor) (index : Nat) (last? : Option Nat) : Editor :=
  { editor with ranges := (index, last?) :: editor.ranges }

def endRange (editor : Editor) (index : Nat) : Editor :=
  { editor with ranges := editor.ranges.filter fun range => range.1 != index }

/-- Whether the range of a command has begun and not ended. -/
def isInRange (editor : Editor) (index : Nat) : Bool :=
  editor.ranges.any fun range => range.1 == index

/-- Whether the line is in a range that has begun. -/
def staysInRange (editor : Editor) (index : Nat) (last : RangeEnd) (end? : Option Nat) :
    Bool × Editor :=
  match end?, last with
  | some number, _ =>
    (editor.number ≤ number,
      if number ≤ editor.number then editor.endRange index else editor)
  | none, .upTo address =>
    let (ends, editor) := editor.isAt address
    (true, if ends then editor.endRange index else editor)
  | none, _ => (true, editor)

def entersRange (editor : Editor) (index : Nat) (first : LineAddress) (last : RangeEnd) :
    Bool × Editor :=
  match first, last with
  | .number 0, .upTo address =>
    if editor.number = 1 then
      let (ends, editor) := editor.isAt address
      (true, if ends then editor else editor.beginRange index none)
    else (false, editor)
  | _, _ =>
    match editor.isAt first with
    | (false, editor) => (false, editor)
    | (true, editor) =>
      match last with
      | .upTo (.number number) =>
        (true, if number ≤ editor.number then editor else editor.beginRange index (some number))
      | .upTo .last =>
        (true, if editor.waiting.isEmpty then editor else editor.beginRange index none)
      | .upTo _ => (true, editor.beginRange index none)
      | .after count =>
        (true, if count = 0 then editor
          else editor.beginRange index (some (editor.number + count)))
      | .multiple number =>
        (true, if number = 0 || editor.number % number = 0 then editor
          else editor.beginRange index (some ((editor.number / number + 1) * number)))

def chooses (editor : Editor) (index : Nat) (choice : LineChoice) : Bool × Editor :=
  let (chosen, editor) := match choice.first, choice.last with
    | none, _ => (true, editor)
    | some address, none => editor.isAt address
    | some first, some last =>
      match editor.ranges.lookup index with
      | some end? => editor.staysInRange index last end?
      | none => editor.entersRange index first last
  (chosen != choice.others, editor)

/-! ## Replacing -/

/-- How letters are changed: all that follow, and the next one. -/
structure Letters where
  all : Char := 'E'
  next : Char := 'E'

/-- A letter changed in one of the ways. -/
def changed (change char : Char) : Char :=
  if change = 'U' || change = 'u' then char.toUpper
  else if change = 'L' || change = 'l' then char.toLower
  else char

def Letters.apply (letters : Letters) (text : Text) : Text × Letters :=
  match text with
  | [] => ([], letters)
  | first :: rest =>
    let front := changed (if letters.next = 'E' then letters.all else letters.next) first
    (front :: rest.map (changed letters.all), { letters with next := 'E' })

/-- What is put in place of a match. -/
def filled (parts : List Substitute) (group : Nat → Text) : Text :=
  (parts.foldl (fun (done, letters) part =>
    let add := fun (text : Text) =>
      let (text, letters) := Letters.apply letters text
      (text.reverse ++ done, letters)
    match part with
    | .text content => add content
    | .group index => add (group index)
    | .letters change =>
      if change = 'u' || change = 'l' then (done, { letters with next := change })
      else (done, { all := change, next := 'E' })) (([] : Text), ({} : Letters))).1.reverse

/-- Where the replacing of matches stands. -/
structure Replacing where
  start : Nat
  /-- How many matches were found. -/
  found : Nat := 0
  /-- What was kept and replaced, last first. -/
  reversed : Text := []
  /-- Where the last match ended. -/
  last? : Option Nat := none
  replaced : Bool := false

def replaceFrom (replacement : Replacement) (regex : Regex) (subject : Regex.Subject) :
    Nat → Replacing → Replacing
  | 0, state => state
  | count + 1, state =>
    match Regex.find? regex subject state.start with
    | none => state
    | some (first, place) =>
      let kept := (subject.chars.extract state.start first).toList
      let whole := (subject.chars.extract first place.index).toList
      let isStale := whole.isEmpty && state.last? = some first
      let isWanted := !isStale && (if replacement.all then replacement.number ≤ state.found + 1
        else replacement.number == state.found + 1)
      let group := fun (index : Nat) => if index = 0 then whole else subject.matched place index
      let put := if isWanted then filled replacement.parts group else whole
      let passed := if whole.isEmpty then (subject.chars.extract first (first + 1)).toList else []
      let next := if whole.isEmpty then first + 1 else place.index
      let state : Replacing := {
        start := next
        found := if isStale then state.found else state.found + 1
        reversed := passed.reverse ++ put.reverse ++ kept.reverse ++ state.reversed
        last? := some place.index
        replaced := state.replaced || isWanted }
      if (isWanted && !replacement.all) || subject.chars.size < next then state
      else replaceFrom replacement regex subject count state

/-- Replaces matches in the line. -/
def replace (editor : Editor) (replacement : Replacement) : Editor :=
  match editor.regexOf replacement.regex with
  | (none, editor) => editor
  | (some (regex, folds), editor) =>
    let subject : Regex.Subject :=
      { chars := editor.line.text.toArray, folds, multiline := replacement.multiline }
    let state := replaceFrom replacement regex subject (subject.chars.size + 2) { start := 0 }
    if !state.replaced then editor
    else
      let rest := (subject.chars.extract state.start subject.chars.size).toList
      let editor := { editor with
        line := { editor.line with text := state.reversed.reverse ++ rest }
        replaced := true }
      let editor := if replacement.prints then editor.putLine editor.line else editor
      match replacement.file with
      | some path =>
        { editor with written := (path, editor.line.text ++ ['\n']) :: editor.written }
      | none => editor

/-! ## Commands -/

/-- The line shown with what cannot be printed written out. -/
def spelledOut (text : Text) : Text :=
  text.flatMap (fun char =>
    if char = '\\' then ['\\', '\\']
    else match Quoting.escape? char with
      | some escape => escape
      | none =>
        if char.toNat < 128 then [char] else '\\' :: Nat.toDigits 8 char.toNat) ++ ['$', '\n']

/-- Does what a letter tells, unless that takes another line or ends the commands. -/
def doLetter (editor : Editor) (name : Char) : Editor :=
  let line := editor.line
  let kept := editor.kept
  match name with
  | 'p' => editor.putLine line
  | 'P' => editor.put (line.text.takeWhile (· != '\n')) true
  | 'h' => { editor with kept := line }
  | 'H' => { editor with kept := ⟨kept.text ++ '\n' :: line.text, line.hasEnd⟩ }
  | 'g' => { editor with line := kept }
  | 'G' => { editor with line := ⟨line.text ++ '\n' :: kept.text, kept.hasEnd⟩ }
  | 'x' => { editor with line := kept, kept := line }
  | '=' => editor.put (Text.ofNat editor.number) true
  | 'l' => editor.putText (spelledOut line.text)
  | 'z' => { editor with line := { line with text := [] } }
  | _ => editor

/-- The index behind the command that closes what one opens; `depth` more are open. -/
def behindClosing (depth index : Nat) : List EditCommand → Nat
  | [] => index
  | command :: rest =>
    match command.action with
    | .opened => behindClosing (depth + 1) (index + 1) rest
    | .closed => if depth = 0 then index + 1 else behindClosing (depth - 1) (index + 1) rest
    | _ => behindClosing depth (index + 1) rest

def labelIndex? (script : List EditCommand) (name : Text) : Option Nat :=
  script.findIdx? fun command => match command.action with
    | .label label => label == name
    | _ => false

/-- Runs commands from an index on; there are at most so many steps. -/
def runFrom (script : List EditCommand) : Nat → Nat → Editor → LineEnd × Editor
  | 0, _, editor => (.ended false 1, editor)
  | fuel + 1, index, editor =>
    match script[index]? with
    | none => (.shown, editor)
    | some command =>
      let (chosen, editor) := editor.chooses index command.choice
      let goOn := fun (editor : Editor) => runFrom script fuel (index + 1) editor
      if !chosen then
        match command.action with
        | .opened =>
          runFrom script fuel (behindClosing 0 (index + 1) (script.drop (index + 1))) editor
        | _ => goOn editor
      else
        match command.action with
        | .opened | .closed | .label _ => goOn editor
        | .replace replacement => goOn (editor.replace replacement)
        | .transliterate pairs =>
          let text := editor.line.text.map fun char => (pairs.lookup char).getD char
          goOn { editor with line := { editor.line with text } }
        | .letter 'd' => (.dropped, editor)
        | .letter 'D' =>
          if editor.line.text.contains '\n' then
            let rest := (editor.line.text.dropWhile (· != '\n')).tail
            (.again, { editor with line := { editor.line with text := rest } })
          else (.dropped, editor)
        | .letter 'n' =>
          match editor.waiting with
          | [] => (.ended true 0, editor)
          | _ =>
            match editor.finishLine.next? with
            | none => (.ended true 0, editor)
            | some (line, editor) => goOn { editor with line }
        | .letter 'N' =>
          match editor.next? with
          | none => (.ended true 0, editor)
          | some (line, editor) =>
            let text := editor.line.text ++ '\n' :: line.text
            goOn { editor.flush with line := ⟨text, line.hasEnd⟩ }
        | .letter name => goOn (editor.doLetter name)
        | .insert 'a' text => goOn { editor with following := text :: editor.following }
        | .insert 'i' text => goOn (editor.putText text)
        | .insert _ text =>
          let isInside := !command.choice.others && editor.isInRange index
          (.dropped, if isInside then editor else editor.putText text)
        | .quit shows status => (.ended shows status, editor)
        | .readFile path =>
          goOn { editor with following := editor.contents path :: editor.following }
        | .writeFile path firstOnly =>
          let text := editor.line.text
          let text := if firstOnly then text.takeWhile (· != '\n') else text
          goOn { editor with written := (path, text ++ ['\n']) :: editor.written }
        | .jump name label =>
          let jumps := name == 'b' || (name == 't') == editor.replaced
          let editor := if name = 'b' then editor else { editor with replaced := false }
          if !jumps then goOn editor
          else if label.isEmpty then (.shown, editor)
          else runFrom script fuel ((labelIndex? script label).getD script.length) editor

/-- The steps that the commands for one line may take. -/
def stepSupply : Nat := 20000

/-- Runs a script on all lines, of which there are at most so many; the status at the end. -/
def runAll (script : List EditCommand) : Nat → Bool → Editor → Nat × Editor
  | 0, _, editor => (0, editor)
  | count + 1, takes, editor =>
    match if takes then editor.next? else some (editor.line, editor) with
    | none => (0, editor)
    | some (line, editor) =>
      let editor := { editor with line, replaced := editor.replaced && !takes }
      match runFrom script stepSupply 0 editor with
      | (.shown, editor) => runAll script count true editor.finishLine
      | (.dropped, editor) => runAll script count true editor.flush
      | (.again, editor) => runAll script count false editor.flush
      | (.ended shows status, editor) =>
        (status, if shows then editor.finishLine else editor.flush)

end Editor

namespace Tool

def editLines (text : Text) : List EditLine :=
  (linesWithEnds text).map fun line =>
    if line.getLast? = some '\n' then ⟨line.dropLast, true⟩ else ⟨line, false⟩

def missingLabel? (script : List EditCommand) : Option Text :=
  script.findSome? fun command => match command.action with
    | .jump _ label =>
      if label.isEmpty || (Editor.labelIndex? script label).isSome then none else some label
    | _ => none

def writtenPaths (script : List EditCommand) : List Text :=
  script.filterMap fun command => match command.action with
    | .writeFile path _ => some path
    | .replace replacement => replacement.file
    | _ => none

/-- Edits lines, and answers with what is printed and with the status. -/
def editText (script : List EditCommand) (quiet : Bool) (lines : List EditLine) :
    Tool (Text × Nat) := do
  let process ← get
  let contents := fun (path : Text) =>
    match process.files.read (Glob.pathFrom process.directory path) with
    | .ok bytes => Text.ofBytes bytes
    | .error _ => []
  for path in writtenPaths script do
    let _ ← writeFile path []
  let size := lines.foldl (fun sum line => sum + line.text.length + 2) 4
  let editor : Editor := { waiting := lines, contents, quiet }
  let (status, editor) := Editor.runAll script (size * size) true editor
  for path in (writtenPaths script).eraseDups do
    let texts := (editor.written.filter fun entry => entry.1 == path).map Prod.snd
    if path = "/dev/stdout".toList then print texts.reverse.flatten
    else
      let _ ← writeFile path texts.reverse.flatten
  pure (editor.printed.reverse.flatten, status)

def editScriptOf (given : Given) (operands : List Text) :
    Tool (List EditCommand × List Text) := do
  let pieces ← (given.filter fun option => option.1 == "expression" || option.1 == "file").mapM
    fun option => do
      if option.1 = "expression" then pure option.2
      else
        match ← read option.2 with
        | .ok text => pure (Text.joined ['\n'] (Text.lines text))
        | .error reason =>
          fail 4 ("couldn't open file ".toList ++ option.2 ++ ": ".toList ++ plainReason reason)
  let (text, operands) ←
    match pieces, operands with
    | [], [] => fail 1 "no script specified".toList
    | [], text :: operands => pure (text, operands)
    | pieces, operands => pure (Text.joined ['\n'] pieces, operands)
  match EditScript.parse (given.has "regexp-extended") text with
  | .error (position, fault) =>
    fail 1 ("-e expression #1, char ".toList ++ Text.ofNat position ++ ": ".toList ++ fault)
  | .ok script =>
    match missingLabel? script with
    | some label =>
      fail 4 ("can't find label for jump to `".toList ++ label ++ ['\''])
    | none => pure (script, operands)

def editOptions : List OptionForm :=
  [.flag "n" "quiet", .flag "" "silent", .flag "" "debug", .valued "e" "expression",
    .valued "f" "file", .flag "" "follow-symlinks", .loose "i" "in-place",
    .valued "l" "line-length", .flag "" "posix", .flag "Er" "regexp-extended",
    .flag "s" "separate", .flag "" "sandbox", .flag "u" "unbuffered", .flag "z" "null-data"]

def sed : Program := fun arguments => do
  match Options.split (editOptions ++ Options.shared) true arguments.length arguments with
  | .error fault => fail 1 fault.message
  | .ok (given, operands) => do
    let (script, operands) ← editScriptOf given operands
    let quiet := given.has "quiet" || given.has "silent"
    let texts ← (if operands.isEmpty then [['-']] else operands).mapM fun path => do
      match ← read path with
      | .ok text => pure (some (path, text))
      | .error .isDirectory => do
        if given.has "in-place" then
          complain ("couldn't edit ".toList ++ path ++ ": not a regular file".toList)
          pure none
        else
          complain ("read error on ".toList ++ path ++ ": Is a directory".toList)
          throw 4
      | .error reason => do
        complain ("can't read ".toList ++ path ++ ": ".toList ++ plainReason reason)
        pure none
    let found := texts.filterMap id
    let failed := if found.length < texts.length then 2 else 0
    if given.has "in-place" then
      for (path, text) in found do
        let (edited, _) ← editText script quiet (editLines text)
        match given.last? "in-place" with
        | some [] | none => pure ()
        | some ending => do
          let _ ← writeFile (path ++ ending) text
        let _ ← writeFile path edited
      pure failed
    else if given.has "separate" then
      for (_, text) in found do
        let (edited, _) ← editText script quiet (editLines text)
        print edited
      pure failed
    else
      let lines := found.map fun (_, text) => editLines text
      let inner := (lines.dropLast.map fun file =>
        file.map fun line => { line with hasEnd := true }).flatten
      let (edited, status) ← editText script quiet (inner ++ lines.getLast?.getD [])
      print edited
      pure (if status = 0 then failed else status)

end Tool

end ComponentSchema.Script
