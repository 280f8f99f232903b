import ComponentSchema.Script.Text

/-!
Signals by their numbers and names.
-/

namespace ComponentSchema.Script.Signals

/-- The names of signals, from number zero on, which stands for the end of a script. -/
def names : List String :=
  ["EXIT", "HUP", "INT", "QUIT", "ILL", "TRAP", "ABRT", "BUS", "FPE", "KILL", "USR1", "SEGV",
    "USR2", "PIPE", "ALRM", "TERM", "16", "CHLD", "CONT", "STOP", "TSTP", "TTIN", "TTOU", "URG",
    "XCPU", "XFSZ", "VTALRM", "PROF", "WINCH", "IO", "PWR", "SYS", "32", "33", "RTMIN",
    "RTMIN+1", "RTMIN+2", "RTMIN+3", "RTMIN+4", "RTMIN+5", "RTMIN+6", "RTMIN+7", "RTMIN+8",
    "RTMIN+9", "RTMIN+10", "RTMIN+11", "RTMIN+12", "RTMIN+13", "RTMIN+14", "RTMIN+15",
    "RTMAX-14", "RTMAX-13", "RTMAX-12", "RTMAX-11", "RTMAX-10", "RTMAX-9", "RTMAX-8", "RTMAX-7",
    "RTMAX-6", "RTMAX-5", "RTMAX-4", "RTMAX-3", "RTMAX-2", "RTMAX-1", "RTMAX"]

def name (signal : Nat) : Text := ((names[signal]?).getD "").toList

def number? (text : Text) : Option Nat :=
  match Text.number? text with
  | some number => if number < names.length then some number else none
  | none => names.findIdx? fun name => name.toList == text.map Char.toUpper

/-- The signal that ends work politely. -/
def termination : Nat := 15

/-- What is told about a program that a signal ended; two of the signals are passed over. -/
def wording? (signal : Nat) : Option String :=
  if signal = 2 || signal = 13 then none
  else
    match ["Hangup", "Interrupt", "Quit", "Illegal instruction", "Trace/breakpoint trap",
        "Aborted", "Bus error", "Floating point exception", "Killed", "User defined signal 1",
        "Segmentation fault", "User defined signal 2", "Broken pipe", "Alarm clock",
        "Terminated"][signal - 1]? with
    | some wording => some wording
    | none =>
      [(16, "Stack fault"), (24, "CPU time limit exceeded"), (25, "File size limit exceeded"),
        (26, "Virtual timer expired"), (27, "Profiling timer expired"), (29, "I/O possible"),
        (30, "Power failure"), (31, "Bad system call")].lookup signal

/-- Whether a signal does nothing to a script that has not asked for it. -/
def isHarmless (signal : Nat) : Bool := [0, 17, 18, 23, 28].contains signal

end ComponentSchema.Script.Signals
