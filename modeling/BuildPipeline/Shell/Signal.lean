/-!
Signals by their names and numbers, and what they do to a process that does not expect them.
-/
namespace BuildPipeline.Shell.Signal

/-- The usual signals, the first one being number 1. -/
def usual : List String :=
  ["HUP", "INT", "QUIT", "ILL", "TRAP", "ABRT", "BUS", "FPE", "KILL", "USR1", "SEGV", "USR2",
    "PIPE", "ALRM", "TERM", "16", "CHLD", "CONT", "STOP", "TSTP", "TTIN", "TTOU", "URG", "XCPU",
    "XFSZ", "VTALRM", "PROF", "WINCH", "IO", "PWR", "SYS", "32", "33"]

/-- Signals without a meaning of their own, up to number 64. -/
def spare : List String :=
  "RTMIN" :: (List.range' 1 15).map (fun k => "RTMIN+" ++ toString k) ++
    (List.range 14).map (fun k => "RTMAX-" ++ toString (14 - k)) ++ ["RTMAX"]

/-- All names; number 0 stands for the end of a shell. -/
def names : List String := "EXIT" :: usual ++ spare

def name? (number : Nat) : Option String := names[number]?

def number (name : String) : Nat := names.idxOf name

def find? (text : String) : Option String :=
  match text.toNat? with
  | some n => name? n
  | none => names.find? fun n => n.toLower = text.toLower

inductive Effect
  | nothing
  | halt
  | death
  deriving DecidableEq

def effect (name : String) : Effect :=
  if ["EXIT", "CHLD", "CONT", "URG", "WINCH"].contains name then .nothing
  else if ["STOP", "TSTP", "TTIN", "TTOU"].contains name then .halt
  else .death

def obituary? (number : Nat) : Option String :=
  match name? number with
  | none => none
  | some name =>
    [("HUP", "Hangup"), ("QUIT", "Quit"), ("ILL", "Illegal instruction"),
      ("TRAP", "Trace/breakpoint trap"), ("ABRT", "Aborted"), ("BUS", "Bus error"),
      ("FPE", "Floating point exception"), ("KILL", "Killed"), ("USR1", "User defined signal 1"),
      ("SEGV", "Segmentation fault"), ("USR2", "User defined signal 2"), ("ALRM", "Alarm clock"),
      ("TERM", "Terminated")].lookup name

end BuildPipeline.Shell.Signal
