import LspRelay.Host.Text.Octets

namespace LspRelay.Signal

def names : List String :=
  ["HUP", "INT", "QUIT", "ILL", "TRAP", "ABRT", "BUS", "FPE", "KILL", "USR1", "SEGV", "USR2",
   "PIPE", "ALRM", "TERM", "STKFLT", "CHLD", "CONT", "STOP", "TSTP", "TTIN", "TTOU", "URG", "XCPU",
   "XFSZ", "VTALRM", "PROF", "WINCH", "IO", "PWR", "SYS"]

def realTimeNames : List String :=
  ["RTMIN"] ++ (List.range 15).map (fun n => "RTMIN+" ++ toString (n + 1)) ++
    (List.range 14).map (fun n => "RTMAX-" ++ toString (14 - n)) ++ ["RTMAX"]

/-- The name of a signal; a number without one is its own name. -/
def name (n : Nat) : String :=
  if n = 0 then "EXIT"
  else if 34 ≤ n then realTimeNames.getD (n - 34) (toString n)
  else names.getD (n - 1) (toString n)

def count : Nat := 65

/-- A signal by its number, or by its name in letters of any case; below a least number there is
none. -/
def ofBytes? (least : Nat) (bs : Bytes) : Option Nat :=
  match number? bs with
  | some n => if n < count ∧ least ≤ n then some n else none
  | none =>
    let upper := bs.map fun b => if 97 ≤ b ∧ b ≤ 122 then b - 32 else b
    (List.range count).find? fun n => least ≤ n && ofText (name n) = upper

def description (n : Nat) : Bytes :=
  match [(1, "Hangup"), (2, "Interrupt"), (3, "Quit"), (4, "Illegal instruction"),
      (5, "Trace/breakpoint trap"), (6, "Aborted"), (7, "Bus error"),
      (8, "Floating point exception"), (9, "Killed"), (10, "User defined signal 1"),
      (11, "Segmentation fault"), (12, "User defined signal 2"), (13, "Broken pipe"),
      (14, "Alarm clock"), (15, "Terminated"), (16, "Stack fault"), (17, "Child exited"),
      (18, "Continued"), (19, "Stopped (signal)"), (20, "Stopped"), (21, "Stopped (tty input)"),
      (22, "Stopped (tty output)"), (23, "Urgent I/O condition"), (24, "CPU time limit exceeded"),
      (25, "File size limit exceeded"), (26, "Virtual timer expired"),
      (27, "Profiling timer expired"), (28, "Window changed"), (29, "I/O possible"),
      (30, "Power failure"), (31, "Bad system call")].lookup n with
  | some text => ofText text
  | none =>
    if 34 ≤ n ∧ n < count then ofText ("Real-time signal " ++ toString (n - 34))
    else ofText ("Unknown signal " ++ toString n)

/-- Signals that do nothing unless they are trapped. -/
def isHarmless (n : Nat) : Bool := n ∈ [0, 17, 18, 23, 28]

def interrupt : Nat := 2

def quit : Nat := 3

def child : Nat := 17

def proceed : Nat := 18

def isFixed (n : Nat) : Bool := n ∈ [9, 19]

/-- Signals that stop a process until it is told to go on. -/
def isStop (n : Nat) : Bool := n ∈ [19, 20, 21, 22]

end LspRelay.Signal
