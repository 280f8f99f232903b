import ComponentSchema.Script.Tool.Calculation
import ComponentSchema.Script.Tool.Characters
import ComponentSchema.Script.Tool.CheckSums
import ComponentSchema.Script.Tool.Columns
import ComponentSchema.Script.Tool.Comparing
import ComponentSchema.Script.Tool.Dump
import ComponentSchema.Script.Tool.Editing
import ComponentSchema.Script.Tool.Encoded
import ComponentSchema.Script.Tool.Extent
import ComponentSchema.Script.Tool.Facts
import ComponentSchema.Script.Tool.Layout
import ComponentSchema.Script.Tool.Listing
import ComponentSchema.Script.Tool.Merging
import ComponentSchema.Script.Tool.Pieces
import ComponentSchema.Script.Tool.Plain
import ComponentSchema.Script.Tool.Search

/-!
What the tools do that every system has, by their names.
-/

namespace ComponentSchema.Script

namespace Tool

/-- Finds lines by patterns, known by the name of the tool that does so. -/
def searchWith (fixed : Given) : Program := fun arguments => do
  modify fun process => { process with name := "grep".toList }
  search fixed arguments

/-- Tools that only refuse the options they are given: the status, and the wording of the report and
of what follows it. -/
def refusingWith (status : Nat) (report : Text → Text) (hint : String) : Program :=
  fun arguments => do
    match arguments.find? fun argument => argument.head? = some '-' with
    | none => pure 0
    | some argument => do
      write 2 (report argument ++ "\n".toList ++ hint.toList)
      pure status

/-- The wording of a report on an option that is not known. -/
def unrecognized (name : String) (argument : Text) : Text :=
  let name := (name ++ ": ").toList
  match argument with
  | '-' :: '-' :: _ => name ++ "unrecognized option '".toList ++ argument ++ ['\'']
  | _ => name ++ "invalid option -- '".toList ++ (argument.drop 1).take 1 ++ ['\'']

/-- How the shell that is not the plain one is to be called. -/
def shellUsage : String :=
  "Usage:\tbash [GNU long option] [option] ...\n" ++
    "\tbash [GNU long option] [option] script-file ...\nGNU long options:\n\t--debug\n" ++
    "\t--debugger\n\t--dump-po-strings\n\t--dump-strings\n\t--help\n\t--init-file\n\t--login\n" ++
    "\t--noediting\n\t--noprofile\n\t--norc\n\t--posix\n\t--pretty-print\n\t--rcfile\n" ++
    "\t--restricted\n\t--verbose\n\t--version\nShell options:\n" ++
    "\t-ilrsD or -c command or -O shopt_option\t\t(invocation only)\n" ++
    "\t-abefhkmnptuvxBCEHPT or -o option\n"

/-- Refuses a long option of that shell. -/
def refuseLong (argument : Text) : Program := fun _ => do
  complain (argument ++ ": invalid option".toList)
  write 2 shellUsage.toList
  pure 2

/-- The tools that print, calculate and test. -/
def plainTools : List (String × Program) :=
  [("[", tested true), ("basename", basename), ("date", date), ("dirname", dirname),
    ("echo", echo),
    ("expr", expr), ("false", ending 1), ("printenv", printenv), ("printf", printf), ("pwd", pwd),
    ("seq", seq), ("sleep", sleep), ("test", tested false), ("true", ending 0),
    ("tty", tty), ("uname", uname), ("yes", yes)]

/-- The tools for files and directories. -/
def fileTools : List (String × Program) :=
  [("chmod", chmod), ("cmp", cmp), ("cp", cp), ("csplit", csplit), ("dd", dd),
    ("diff", diff), ("du", refusingAll), ("ls", ls), ("mkdir", mkdir), ("mv", mv),
    ("rm", rm), ("rmdir", rmdir), ("split", split), ("stat", statFiles),
    ("touch", touch), ("truncate", truncate)]

/-- The tools for text in lines. -/
def lineTools : List (String × Program) :=
  [("comm", comm), ("cut", cut), ("egrep", searchWith [("extended-regexp", [])]),
    ("expand", expand), ("fgrep", searchWith [("fixed-strings", [])]), ("fold", fold),
    ("grep", search []), ("join", join), ("nl", nl), ("paste", paste), ("rev", rev),
    ("sed", sed), ("sort", sort), ("tac", tac), ("unexpand", unexpand), ("uniq", uniq)]

def streamTools : List (String × Program) :=
  [("base32", encodedWith .ofFiveBits), ("base64", encodedWith .ofSixBits), ("cat", cat),
    ("cksum", cksum), ("head", head), ("md5sum", digestWith .md5), ("od", od),
    ("sha1sum", digestWith .sha1),
    ("sha224sum", digestWith .sha224), ("sha256sum", digestWith .sha256),
    ("sha384sum", digestWith .sha384), ("sha512sum", digestWith .sha512), ("sum", sum),
    ("tail", tail), ("tee", tee), ("tr", tr), ("wc", wc)]

def working : List (String × Program) := plainTools ++ fileTools ++ lineTools ++ streamTools

/-- The tools that are only known to refuse options, with the statuses they end with then. -/
def idle : List (Nat × List String) :=
  [(1, ["arch", "b2sum", "basenc", "chcon", "chgrp", "chown", "df",
      "dircolors", "factor", "fmt", "groups", "hostid", "id", "install", "link", "ln",
      "logname", "mkfifo", "mknod", "mktemp", "nproc", "numfmt", "pathchk", "pinky", "pr",
      "ptx", "readlink", "realpath", "shred", "shuf", "sync", "tsort",
      "unlink", "users", "who", "whoami"]),
    (2, ["dir", "vdir"]),
    (125, ["chroot", "runcon"])]

/-- The tools that are only known to refuse options, each in its own words. -/
def strange : List (String × Program) :=
  [("awk", refusingWith 2 (fun argument => "awk: not an option: ".toList ++ argument) ""),
    ("mawk", refusingWith 2 (fun argument => "mawk: not an option: ".toList ++ argument) ""),
    ("perl", refusingWith 29 (fun argument => "Unrecognized switch: ".toList ++ argument ++
      "  (-h will show valid options).".toList) ""),
    ("tar", refusingWith 64 (unrecognized "tar")
      "Try 'tar --help' or 'tar --usage' for more information.\n")]

/-- The names of the tools that run other ones, or tell where they are. -/
def runners : List String := ["env", "find", "nice", "nohup", "stdbuf", "timeout", "which", "xargs"]

def shells : List String := ["sh", "dash", "bash"]

/-- The tool with a name, unless it is one that runs others. -/
def named? (name : Text) : Option Program :=
  let name := String.ofList name
  match (working.lookup name).or (strange.lookup name) with
  | some program => some program
  | none => (idle.find? fun entry => entry.2.contains name).map fun entry => refusing entry.1

end Tool

end ComponentSchema.Script
