import Scaffold.Shell.Arithmetic

namespace Scaffold.Shell

-- A signal by its name, and what is said of those that it ends.
structure Signal where
  name : String
  text : String

-- The signals from number one on.
def signals : List Signal :=
  [⟨"HUP", "Hangup"⟩, ⟨"INT", "Interrupt"⟩, ⟨"QUIT", "Quit"⟩, ⟨"ILL", "Illegal instruction"⟩,
    ⟨"TRAP", "Trace/breakpoint trap"⟩, ⟨"ABRT", "Aborted"⟩, ⟨"BUS", "Bus error"⟩,
    ⟨"FPE", "Floating point exception"⟩, ⟨"KILL", "Killed"⟩, ⟨"USR1", "User defined signal 1"⟩,
    ⟨"SEGV", "Segmentation fault"⟩, ⟨"USR2", "User defined signal 2"⟩, ⟨"PIPE", "Broken pipe"⟩,
    ⟨"ALRM", "Alarm clock"⟩, ⟨"TERM", "Terminated"⟩, ⟨"16", "Stack fault"⟩, ⟨"CHLD", "Child exited"⟩,
    ⟨"CONT", "Continued"⟩, ⟨"STOP", "Stopped (signal)"⟩, ⟨"TSTP", "Stopped"⟩, ⟨"TTIN", "Stopped (tty input)"⟩,
    ⟨"TTOU", "Stopped (tty output)"⟩, ⟨"URG", "Urgent I/O condition"⟩, ⟨"XCPU", "CPU time limit exceeded"⟩,
    ⟨"XFSZ", "File size limit exceeded"⟩, ⟨"VTALRM", "Virtual timer expired"⟩,
    ⟨"PROF", "Profiling timer expired"⟩, ⟨"WINCH", "Window changed"⟩, ⟨"IO", "I/O possible"⟩,
    ⟨"PWR", "Power failure"⟩, ⟨"SYS", "Bad system call"⟩]

def lastSignal : Nat := 64

-- The signals for free use, counted from both ends.
def freeSignalName (n : Nat) : String :=
  if n < 34 then toString n
  else if n = 34 then "RTMIN"
  else if n < 50 then "RTMIN+" ++ toString (n - 34)
  else if n < 64 then "RTMAX-" ++ toString (64 - n)
  else "RTMAX"

def signalName (n : Nat) : String :=
  if n = 0 then "EXIT"
  else match signals[n - 1]? with
    | some s => s.name
    | none => freeSignalName n

def signalText (n : Nat) : String :=
  match signals[n - 1]? with
  | some s => s.text
  | none => "Real-time signal " ++ toString (n - 34)

-- The signal that a number or a name stands for.
def signal? (s : List Char) : Option Nat :=
  if s ≠ [] ∧ s.all Char.isDigit then
    let n := Arithmetic.natural s
    if n ≤ lastSignal then some n else none
  else
    let name := String.ofList (s.map Char.toUpper)
    (List.range (lastSignal + 1)).find? fun n => signalName n == name

-- Signals that nobody hears about.
def isSilent (n : Nat) : Bool :=
  n == 2 || n == 13

-- Signals that do nothing to a process that does not care about them.
def isHarmless (n : Nat) : Bool :=
  n == 0 || (17 ≤ n && n ≤ 23) || n == 28

end Scaffold.Shell
